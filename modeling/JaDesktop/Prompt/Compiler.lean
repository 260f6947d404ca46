import Mathlib.Algebra.Order.Ring.Int
import JaDesktop.Prompt.Fragments

/-!
# The compiler of prompts

`PromptCompiler` puts the fragments in order and appends as much of each as two budgets allow, one of
bytes and one of tokens.  Its loops run over the fragments and over the code points of a text.
-/

namespace JaDesktop.Prompt

open JaDesktop.Sidecar

/-! ## Order -/

/-- `Comparator.comparing`. -/
def comparing {α β : Type} (key : α → β) (cmp : β → β → Ordering) (a b : α) : Ordering :=
  cmp (key a) (key b)

/-- `String.compareTo`. -/
def compareTo : JavaString → JavaString → Ordering := List.compareLex compare

/-- `ORDER`: by the layer, then by the source, then by the identifier. -/
def order : PromptFragment → PromptFragment → Ordering :=
  compareLex (comparing (fun fragment => fragment.layer.order) compare)
    (compareLex (comparing PromptFragment.source compareTo) (comparing PromptFragment.id compareTo))

/-! ## Estimates -/

/-- `estimateTokensForBytes`, on a `long`. -/
def estimateTokensForBytes (bytes : ℤ) : ℤ :=
  if bytes ≤ 0 then 0
  else if (bytes + 3) / 4 ≥ intMax then intMax
  else (bytes + 3) / 4

def estimateTokens (value : JavaString) : ℤ := estimateTokensForBytes (utf8Bytes value)

def utf8Width (codePoint : ℕ) : ℕ :=
  if codePoint ≤ 0x7F then 1
  else if codePoint ≤ 0x7FF then 2
  else if codePoint ≤ 0xFFFF then 3
  else 4

/-! ## One fragment -/

/-- A code point of `fitPrefix`: the bytes with it, or that it does not fit. -/
def fitNext (availableBytes baseBytes maxTokens bytes : ℤ) (codePoint : ℕ) :
    Except Fault (Option ℤ) := do
  let nextBytes ← int (bytes + utf8Width codePoint)
  if nextBytes > availableBytes ∨ estimateTokensForBytes (baseBytes + nextBytes) > maxTokens then
    .ok none
  else .ok (some nextBytes)

/-- The loop of `fitPrefix` over the rest of the text, with the end of the prefix. -/
def fitLoop (availableBytes baseBytes maxTokens : ℤ) :
    JavaString → (ending bytes : ℤ) → Except Fault ℤ
  | [], ending, _ => .ok ending
  | [u], ending, bytes => do
    match ← fitNext availableBytes baseBytes maxTokens bytes u.toNat with
    | none => .ok ending
    | some _ => int (ending + 1)
  | u :: l :: rest, ending, bytes => do
    if isHighSurrogate u && isLowSurrogate l then
      match ← fitNext availableBytes baseBytes maxTokens bytes (pairedChar u l).toNat with
      | none => .ok ending
      | some bytes =>
        let ending ← int (ending + 2)
        fitLoop availableBytes baseBytes maxTokens rest ending bytes
    else
      match ← fitNext availableBytes baseBytes maxTokens bytes u.toNat with
      | none => .ok ending
      | some bytes =>
        let ending ← int (ending + 1)
        fitLoop availableBytes baseBytes maxTokens (l :: rest) ending bytes

def fitPrefix (text : JavaString) (availableBytes baseBytes maxTokens : ℤ) :
    Except Fault JavaString :=
  if availableBytes ≤ 0 ∨ estimateTokensForBytes baseBytes > maxTokens then .ok []
  else do
    let ending ← fitLoop availableBytes baseBytes maxTokens text 0 0
    .ok (text.take ending.toNat)

inductive TruncationReason
  | utf8Budget
  | tokenBudget
  | utf8AndTokenBudget
  | droppedAfterBudget
deriving DecidableEq

def reason (candidateBytes candidateTokens : ℤ) (budget : PromptBudget) : TruncationReason :=
  let bytes := candidateBytes > budget.maxUtf8Bytes
  let tokens := candidateTokens > budget.maxTokens
  if bytes ∧ tokens then .utf8AndTokenBudget
  else if bytes then .utf8Budget
  else if tokens then .tokenBudget
  else .droppedAfterBudget

structure PromptProvenance where
  layer : PromptLayer
  id : JavaString
  source : JavaString
  originalUtf8Bytes : ℤ
  includedUtf8Bytes : ℤ
  originalTokens : ℤ
  includedTokens : ℤ
deriving DecidableEq

/-- The constructor of `PromptProvenance`. -/
def PromptProvenance.check (p : PromptProvenance) : Except Fault PromptProvenance :=
  if p.originalUtf8Bytes < 0 ∨ p.includedUtf8Bytes < 0 ∨ p.originalTokens < 0 ∨
      p.includedTokens < 0 ∨ p.includedUtf8Bytes > p.originalUtf8Bytes ∨
      p.includedTokens > p.originalTokens then
    .error (.illegalArgument (java "invalid prompt provenance accounting"))
  else .ok p

structure PromptTruncation where
  id : JavaString
  layer : PromptLayer
  reason : TruncationReason
deriving DecidableEq

/-- The constructor of `PromptTruncation`. -/
def PromptTruncation.check (t : PromptTruncation) : Except Fault PromptTruncation :=
  if isBlank t.id then .error (.illegalArgument (java "truncation fields are required")) else .ok t

/-- `OutputState`, with the lists that the loop of `compileInternal` fills. -/
structure Output where
  text : JavaString := []
  bytes : ℤ := 0
  tokens : ℤ := 0
  provenance : List PromptProvenance := []
  truncations : List PromptTruncation := []

/-- The `\n` between two parts. -/
def separator : JavaString := [0x0A]

/-- `included` of `appendFragment`, before the test whether it is emitted. -/
def includedText (text : JavaString) (separatorBytes availableBytes baseBytes maxTokens : ℤ) :
    Except Fault JavaString :=
  if separatorBytes > availableBytes ∨ estimateTokensForBytes baseBytes > maxTokens then .ok []
  else fitPrefix text availableBytes baseBytes maxTokens

/-- `output.bytes` behind the text of a fragment, if it is emitted. -/
def bytesBehind (emitted : Bool) (bytes separatorBytes : ℤ) (included : JavaString) :
    Except Fault ℤ :=
  if emitted then do
    let addedBytes ← int (separatorBytes + utf8Bytes included)
    int (bytes + addedBytes)
  else .ok bytes

/-- The entry of a fragment in `truncations`, if it is cut. -/
def truncationEntries (budget : PromptBudget) (fragment : PromptFragment) (included : JavaString)
    (candidateBytes : ℤ) : Except Fault (List PromptTruncation) :=
  if included = fragment.text then .ok []
  else do
    let truncation ← PromptTruncation.check
      ⟨fragment.id, fragment.layer,
        reason candidateBytes (estimateTokensForBytes candidateBytes) budget⟩
    .ok [truncation]

def appendFragment (budget : PromptBudget) (output : Output) (fragment : PromptFragment) :
    Except Fault Output := do
  let separatorBytes : ℤ := if output.text.isEmpty then 0 else 1
  let originalBytes : ℤ := utf8Bytes fragment.text
  let freeBytes ← int (budget.maxUtf8Bytes - output.bytes)
  let availableBytes ← int (freeBytes - separatorBytes)
  let baseBytes ← int (output.bytes + separatorBytes)
  let fitting ←
    includedText fragment.text separatorBytes availableBytes baseBytes budget.maxTokens
  let separatorFits := decide (separatorBytes ≤ availableBytes ∧
    estimateTokensForBytes baseBytes ≤ budget.maxTokens)
  let emitted := separatorFits && (!fitting.isEmpty || fragment.text.isEmpty)
  let included := if emitted then fitting else []
  let bytes ← bytesBehind emitted output.bytes separatorBytes included
  let provenance ← PromptProvenance.check
    { layer := fragment.layer, id := fragment.id, source := fragment.source
      originalUtf8Bytes := originalBytes
      includedUtf8Bytes := utf8Bytes included
      originalTokens := estimateTokens fragment.text
      includedTokens := estimateTokens included }
  let truncations ← truncationEntries budget fragment included
    (output.bytes + separatorBytes + originalBytes)
  .ok
    { text :=
        if emitted then
          output.text ++ (if separatorBytes = 0 then [] else separator) ++ included
        else output.text
      bytes
      tokens := if emitted then estimateTokensForBytes bytes else output.tokens
      provenance := output.provenance ++ [provenance]
      truncations := output.truncations ++ truncations }

/-! ## All fragments -/

/-- What the first loop of `compileInternal` has seen. -/
structure Totals where
  ids : List JavaString := []
  codePoints : ℕ := 0
  bytes : ℕ := 0

/-- The body of the first loop of `compileInternal`; the totals are `long`s. -/
def checkFragment (trustedSystemEntry : Bool) (totals : Totals) (fragment : PromptFragment) :
    Except Fault Totals := do
  reject (decide (fragment.layer = .system) && (!trustedSystemEntry || !fragment.trustedSystem))
    (.illegalArgument (java "SYSTEM fragments require TrustedSystemPrompt entry"))
  reject (totals.ids.contains fragment.id)
    (.illegalArgument (java "duplicate prompt fragment id: " ++ fragment.id))
  let totals : Totals :=
    { ids := fragment.id :: totals.ids
      codePoints := totals.codePoints + codePointCount fragment.text
      bytes := totals.bytes + utf8Bytes fragment.text }
  reject (decide (totals.codePoints > maxTotalCodePoints) ||
      decide (totals.bytes > maxTotalUtf8Bytes))
    (.illegalArgument (java "prompt input exceeds hard aggregate limits"))
  .ok totals

structure PromptCompilation where
  compilerVersion : String
  text : JavaString
  utf8Bytes : ℤ
  estimatedTokens : ℤ
  provenance : List PromptProvenance
  truncations : List PromptTruncation
deriving DecidableEq

/-- The constructor of `PromptCompilation`. -/
def PromptCompilation.check (c : PromptCompilation) : Except Fault PromptCompilation :=
  if c.utf8Bytes < 0 ∨ c.estimatedTokens < 0 then
    .error (.illegalArgument (java "invalid prompt compilation"))
  else .ok c

def version : String := "ja-prompt-v2"

def compileInternal (fragments : List PromptFragment) (budget : PromptBudget)
    (trustedSystemEntry : Bool) : Except Fault PromptCompilation := do
  reject (decide (fragments.length > maxFragments))
    (.illegalArgument (java "prompt fragment count exceeds hard input limit"))
  let _ ← fragments.foldlM (checkFragment trustedSystemEntry) {}
  let ordered := fragments.mergeSort fun a b => (order a b).isLE
  let output ← ordered.foldlM (appendFragment budget) {}
  PromptCompilation.check
    ⟨version, output.text, output.bytes, output.tokens, output.provenance, output.truncations⟩

/-- `compile` of fragments alone. -/
def compile (fragments : List PromptFragment) (budget : PromptBudget) :
    Except Fault PromptCompilation :=
  compileInternal fragments budget false

/-- `compile` with a system prompt. -/
def compileTrusted (system : TrustedSystemPrompt) (fragments : List PromptFragment)
    (budget : PromptBudget) : Except Fault PromptCompilation :=
  compileInternal (system.fragment :: fragments) budget true

end JaDesktop.Prompt
