import JaDesktop.Prompt.Acceptance
import JaDesktop.Prompt.Prefixes

/-!
# What is compiled

The purpose of the compiler: every fragment in turn contributes the longest prefix of its text that
both budgets allow behind what is there already, and the contributions are joined by line breaks.
`Assembles` says so without the counters of the code; the run of the loop has this meaning, its counts
are those of the text, and no computation in it overflows.
-/

namespace JaDesktop.Prompt

open JaDesktop.Sidecar

/-! ## The meaning of a compilation -/

/-- A string starts with another one that ends between two characters. -/
def CharPrefix (p s : JavaString) : Prop :=
  ∃ cs ds, p = units cs ∧ s = units (cs ++ ds)

/-- A number of bytes is within both budgets. -/
def Within (budget : PromptBudget) (bytes : ℕ) : Prop :=
  bytes ≤ budget.maxUtf8Bytes ∧ (bytes + 3) / 4 ≤ budget.maxTokens

/-- A text with one more part. -/
def extended (text part : JavaString) : JavaString :=
  if text = [] then part else text ++ separator ++ part

/-- The longest prefix of `text` that still fits behind what was emitted. -/
structure LongestPart (budget : PromptBudget) (emitted text part : JavaString) : Prop where
  boundary : CharPrefix part text
  fits : part ≠ [] → Within budget (utf8Bytes (extended emitted part))
  longest : ∀ p, CharPrefix p text → Within budget (utf8Bytes (extended emitted p)) → p <+: part

/-- What a fragment contributes behind a text, and the text after it. -/
inductive Contributes (budget : PromptBudget) (emitted : JavaString) (fragment : PromptFragment) :
    JavaString → JavaString → Prop
  /-- a part of the text, or all of it -/
  | part {part : JavaString} (hpart : LongestPart budget emitted fragment.text part)
      (hsome : part ≠ []) : Contributes budget emitted fragment part (extended emitted part)
  /-- nothing of a text -/
  | dropped (hpart : LongestPart budget emitted fragment.text []) (htext : fragment.text ≠ []) :
      Contributes budget emitted fragment [] emitted
  /-- an empty text, which has a line break at most -/
  | empty {emitted' : JavaString} (htext : fragment.text = [])
      (hemitted : emitted' = emitted ∨ emitted' = extended emitted []) :
      Contributes budget emitted fragment [] emitted'

/-- What the fragments contribute to a text, one after the other. -/
inductive Assembles (budget : PromptBudget) :
    JavaString → List (PromptFragment × JavaString) → JavaString → Prop
  | nil (emitted : JavaString) : Assembles budget emitted [] emitted
  | cons {emitted emitted' final part : JavaString} {fragment : PromptFragment}
      {rest : List (PromptFragment × JavaString)}
      (hfirst : Contributes budget emitted fragment part emitted')
      (hrest : Assembles budget emitted' rest final) :
      Assembles budget emitted ((fragment, part) :: rest) final

/-- The entry of a fragment in the provenance. -/
def provenanceOf (fragment : PromptFragment) (part : JavaString) : PromptProvenance where
  layer := fragment.layer
  id := fragment.id
  source := fragment.source
  originalUtf8Bytes := utf8Bytes fragment.text
  includedUtf8Bytes := utf8Bytes part
  originalTokens := estimateTokens fragment.text
  includedTokens := estimateTokens part

/-- The contribution is not the whole text. -/
def isCut (contribution : PromptFragment × JavaString) : Bool :=
  contribution.2 != contribution.1.text

/-- The contributions are joined by line breaks, where an empty text may have its own line. -/
def Joined (contributions : List (PromptFragment × JavaString)) (text : JavaString) : Prop :=
  ∃ lines : List (PromptFragment × JavaString), lines.Sublist contributions ∧
    lines.filter (fun c => !c.2.isEmpty) = contributions.filter (fun c => !c.2.isEmpty) ∧
    (∀ line ∈ lines, line.2 = [] → line.1.text = []) ∧
    text = separator.intercalate (lines.map Prod.snd)

/-- **What a compilation is**, for fragments in any order. -/
structure Compiled (budget : PromptBudget) (fragments : List PromptFragment)
    (contributions : List (PromptFragment × JavaString)) (result : PromptCompilation) : Prop where
  perm : (contributions.map Prod.fst).Perm fragments
  sorted : (contributions.map Prod.fst).Pairwise fun a b => (order a b).isLE = true
  assembles : Assembles budget [] contributions result.text
  joined : Joined contributions result.text
  bytes : result.utf8Bytes = utf8Bytes result.text
  bytes_le : result.utf8Bytes ≤ budget.maxUtf8Bytes
  tokens : result.estimatedTokens = ((utf8Bytes result.text + 3) / 4 : ℕ)
  tokens_le : result.estimatedTokens ≤ budget.maxTokens
  provenance : result.provenance = contributions.map fun c => provenanceOf c.1 c.2
  truncations : result.truncations.map (fun t => (t.id, t.layer)) =
    (contributions.filter isCut).map fun c => (c.1.id, c.1.layer)
  reasons : ∀ t ∈ result.truncations, t.reason ≠ .droppedAfterBudget

/-! ## Numbers -/

section Numbers

variable {budget : PromptBudget}

lemma estimateTokensForBytes_eq {n : ℕ} (h : n ≤ 2 * intMax) :
    estimateTokensForBytes n = ((n + 3) / 4 : ℕ) := by
  have hmax : intMax = 2147483647 := rfl
  rw [estimateTokensForBytes]
  split_ifs <;> omega

/-- What fits behind `n` bytes and a separator, in the numbers of the code. -/
lemma fitsBehind_iff {n s k : ℕ} :
    FitsBehind ((budget.maxUtf8Bytes : ℤ) - n - s) ((n : ℤ) + s) budget.maxTokens k ↔
      Within budget (n + s + k) := by
  have hbytes : (k : ℤ) ≤ (budget.maxUtf8Bytes : ℤ) - n - s ↔ n + s + k ≤ budget.maxUtf8Bytes := by
    omega
  rw [FitsBehind, Within, hbytes]
  refine and_congr_right fun hle => ?_
  have hlarge := budget.maxUtf8Bytes_le
  have hsum : ((n : ℤ) + s + k) = ((n + s + k : ℕ) : ℤ) := by push_cast; rfl
  rw [hsum, estimateTokensForBytes_eq (by omega)]
  exact Int.ofNat_le

end Numbers

/-! ## One fragment -/

section Append

variable (budget : PromptBudget) (fragment : PromptFragment)

/-- The bytes of the separator behind a text. -/
def separatorOf (text : JavaString) : ℕ := if text.isEmpty then 0 else 1

lemma utf8Bytes_extended {text part : JavaString} (htext : IsText text) (hpart : IsText part) :
    utf8Bytes (extended text part) = utf8Bytes text + separatorOf text + utf8Bytes part := by
  cases text with
  | nil =>
    rw [extended, if_pos rfl, separatorOf, List.isEmpty_nil, if_pos rfl]
    simp [utf8Bytes, getBytes, encodedChars]
  | cons u text =>
    rw [extended, if_neg (List.cons_ne_nil _ _), utf8Bytes_append (htext.append isText_separator)
      hpart, utf8Bytes_append htext isText_separator, separatorOf]
    rfl

lemma isText_extended {text part : JavaString} (htext : IsText text) (hpart : IsText part) :
    IsText (extended text part) := by
  rw [extended]
  split_ifs
  · exact hpart
  · exact (htext.append isText_separator).append hpart

/-- The counters are those of the text, which is within the budgets; `most` bounds its bytes. -/
structure Output.Sound (budget : PromptBudget) (most : ℕ) (output : Output) : Prop where
  text : IsText output.text
  bytes : output.bytes = utf8Bytes output.text
  tokens : output.tokens = ((utf8Bytes output.text + 3) / 4 : ℕ)
  within : Within budget (utf8Bytes output.text)
  bytes_le : utf8Bytes output.text ≤ most

/-- What a fragment contributes behind a text. -/
def partOf (emitted : JavaString) : JavaString :=
  units (fitting ((budget.maxUtf8Bytes : ℤ) - utf8Bytes emitted - separatorOf emitted)
    ((utf8Bytes emitted : ℤ) + separatorOf emitted) budget.maxTokens (encodedChars fragment.text))

lemma PromptFragment.text_eq (fragment : PromptFragment) :
    fragment.text = units (encodedChars fragment.text) := by
  obtain ⟨cs, hcs⟩ := fragment.isText
  rw [hcs, units, encodedChars_flatMap, units]

lemma isText_partOf (emitted : JavaString) : IsText (partOf budget fragment emitted) := ⟨_, rfl⟩

variable {emitted : JavaString}

/-- **The contribution is the longest prefix that fits.** -/
lemma longestPart_partOf (hemitted : IsText emitted) :
    LongestPart budget emitted fragment.text (partOf budget fragment emitted) := by
  have htext := fragment.text_eq
  refine ⟨?_, fun hsome => ?_, ?_⟩
  · obtain ⟨rest, hrest⟩ := fitting_isPrefix (encodedChars fragment.text)
    exact ⟨_, rest, rfl, by rw [hrest]; exact htext⟩
  · have hfits := fitsBehind_fitting fun hnil => hsome (units_eq_nil_iff.mpr hnil)
    rw [utf8Bytes_extended hemitted (isText_partOf budget fragment emitted), partOf, utf8Bytes_units]
    exact fitsBehind_iff.mp hfits
  · rintro p ⟨cs, ds, rfl, hsplit⟩ hwithin
    have hprefix : cs <+: encodedChars fragment.text :=
      ⟨ds, units_injective (hsplit.symm.trans htext)⟩
    rw [utf8Bytes_extended hemitted ⟨cs, rfl⟩, utf8Bytes_units] at hwithin
    obtain ⟨rest, hrest⟩ := prefix_fitting hprefix (fitsBehind_iff.mpr hwithin)
    exact ⟨units rest, by rw [← units_append, hrest]; rfl⟩

/-- The separator fits behind a text. -/
def SeparatorFits (emitted : JavaString) : Prop :=
  (separatorOf emitted : ℤ) ≤ (budget.maxUtf8Bytes : ℤ) - utf8Bytes emitted - separatorOf emitted ∧
    estimateTokensForBytes ((utf8Bytes emitted : ℤ) + separatorOf emitted) ≤ budget.maxTokens

instance (emitted : JavaString) : Decidable (SeparatorFits budget emitted) :=
  inferInstanceAs (Decidable (_ ∧ _))

lemma separatorOf_le_one (text : JavaString) : separatorOf text ≤ 1 := by
  rw [separatorOf]
  split_ifs <;> omega

lemma partOf_eq_nil (h : ¬ SeparatorFits budget emitted) :
    partOf budget fragment emitted = [] := by
  have hone := separatorOf_le_one emitted
  rw [SeparatorFits, not_and_or, not_le, not_le] at h
  rw [partOf, fitting_eq_nil, units, List.flatMap_nil]
  rcases h with hbytes | htokens
  · exact .inl (by omega)
  · exact .inr htokens

/-- The text of a fragment is emitted: something of it fits, or it is empty. -/
def emits (emitted : JavaString) : Bool :=
  decide (SeparatorFits budget emitted) &&
    (!(partOf budget fragment emitted).isEmpty || fragment.text.isEmpty)

/-- The text after a fragment. -/
def textAfter (emitted : JavaString) : JavaString :=
  if emits budget fragment emitted then extended emitted (partOf budget fragment emitted) else emitted

lemma contributes_textAfter (hemitted : IsText emitted) :
    Contributes budget emitted fragment (partOf budget fragment emitted)
      (textAfter budget fragment emitted) := by
  have hlongest := longestPart_partOf budget fragment hemitted
  by_cases hnone : partOf budget fragment emitted = []
  · rw [hnone] at hlongest
    rw [textAfter, hnone]
    by_cases htext : fragment.text = []
    · refine .empty htext ?_
      split_ifs
      · exact .inr rfl
      · exact .inl rfl
    · have hsilent : emits budget fragment emitted = false := by simp [emits, hnone, htext]
      rw [hsilent, if_neg Bool.false_ne_true]
      exact .dropped hlongest htext
  · have hfits : SeparatorFits budget emitted := by
      by_contra h
      exact hnone (partOf_eq_nil budget fragment h)
    have hemits : emits budget fragment emitted = true := by simp [emits, hfits, hnone]
    rw [textAfter, if_pos hemits]
    exact .part hlongest hnone

lemma utf8Bytes_partOf_le (emitted : JavaString) :
    utf8Bytes (partOf budget fragment emitted) ≤ utf8Bytes fragment.text := by
  obtain ⟨rest, hrest⟩ := fitting_isPrefix (encodedChars fragment.text)
  rw [fragment.text_eq, ← hrest, units_append, utf8Bytes_append ⟨_, rfl⟩ ⟨rest, rfl⟩]
  exact Nat.le_add_right _ _

lemma textAfter_spec (hemitted : IsText emitted) (hwithin : Within budget (utf8Bytes emitted)) :
    IsText (textAfter budget fragment emitted) ∧
      Within budget (utf8Bytes (textAfter budget fragment emitted)) ∧
      utf8Bytes (textAfter budget fragment emitted) ≤
        utf8Bytes emitted + 1 + utf8Bytes fragment.text := by
  by_cases hemits : emits budget fragment emitted = true
  · have hpart := isText_partOf budget fragment emitted
    have hle := utf8Bytes_partOf_le budget fragment emitted
    have hone := separatorOf_le_one emitted
    rw [textAfter, if_pos hemits]
    refine ⟨isText_extended hemitted hpart, ?_, ?_⟩
    · by_cases hnone : partOf budget fragment emitted = []
      · -- only the separator is written
        obtain ⟨hfits, -⟩ := Bool.and_eq_true_iff.mp hemits
        obtain ⟨hbytes, htokens⟩ := of_decide_eq_true hfits
        rw [utf8Bytes_extended hemitted hpart, hnone]
        refine fitsBehind_iff.mp ⟨?_, ?_⟩
        · show (0 : ℤ) ≤ _
          omega
        · show estimateTokensForBytes (_ + 0) ≤ _
          rwa [Int.add_zero]
      · exact (longestPart_partOf budget fragment hemitted).fits hnone
    · rw [utf8Bytes_extended hemitted hpart]
      omega
  · rw [textAfter, if_neg hemits]
    exact ⟨hemitted, hwithin, by omega⟩

lemma reason_ne_dropped (hemitted : IsText emitted)
    (hsmall : utf8Bytes emitted + 1 + utf8Bytes fragment.text ≤ 2 * intMax)
    (hcut : partOf budget fragment emitted ≠ fragment.text) :
    reason ((utf8Bytes emitted : ℤ) + separatorOf emitted + utf8Bytes fragment.text)
      (estimateTokensForBytes
        ((utf8Bytes emitted : ℤ) + separatorOf emitted + utf8Bytes fragment.text)) budget ≠
      .droppedAfterBudget := by
  have hone := separatorOf_le_one emitted
  have hcast : (utf8Bytes emitted : ℤ) + separatorOf emitted + utf8Bytes fragment.text =
      ((utf8Bytes emitted + separatorOf emitted + utf8Bytes fragment.text : ℕ) : ℤ) := by
    push_cast
    rfl
  rw [hcast, estimateTokensForBytes_eq (by omega)]
  intro hreason
  -- else the whole text would fit, and the longest prefix would be the text
  have hwithin : Within budget
      (utf8Bytes emitted + separatorOf emitted + utf8Bytes fragment.text) := by
    rw [reason] at hreason
    split_ifs at hreason with hboth hbytes htokens
    exact ⟨by omega, by omega⟩
  have hwhole : CharPrefix fragment.text fragment.text :=
    ⟨encodedChars fragment.text, [], fragment.text_eq,
      by rw [List.append_nil]; exact fragment.text_eq⟩
  have hprefix := (longestPart_partOf budget fragment hemitted).longest
    fragment.text hwhole (by rwa [utf8Bytes_extended hemitted fragment.isText])
  obtain ⟨cs, ds, hcs, hds⟩ :=
    (longestPart_partOf budget fragment hemitted).boundary
  refine hcut (List.IsPrefix.eq_of_length_le ?_ hprefix.length_le)
  rw [hcs, hds, units_append]
  exact List.prefix_append _ _

lemma estimateTokens_mono {s t : JavaString} (h : utf8Bytes s ≤ utf8Bytes t) :
    0 ≤ estimateTokens s ∧ estimateTokens s ≤ estimateTokens t := by
  refine ⟨?_, estimateTokensForBytes_mono (Int.ofNat_le.mpr h)⟩
  have hzero : estimateTokensForBytes 0 ≤ estimateTokens s :=
    estimateTokensForBytes_mono (Int.natCast_nonneg _)
  exact hzero

lemma check_provenanceOf (emitted : JavaString) :
    (provenanceOf fragment (partOf budget fragment emitted)).check =
      .ok (provenanceOf fragment (partOf budget fragment emitted)) := by
  have hbytes := utf8Bytes_partOf_le budget fragment emitted
  obtain ⟨hpositive, htokens⟩ := estimateTokens_mono hbytes
  rw [PromptProvenance.check, if_neg]
  simp only [provenanceOf, not_or, not_lt, gt_iff_lt]
  exact ⟨Int.natCast_nonneg _, Int.natCast_nonneg _, hpositive.trans htokens, hpositive,
    Int.ofNat_le.mpr hbytes, htokens⟩

lemma check_truncation (r : TruncationReason) :
    PromptTruncation.check ⟨fragment.id, fragment.layer, r⟩ =
      .ok ⟨fragment.id, fragment.layer, r⟩ := by
  have hid := fragment.id_ok
  rw [requireMetadata] at hid
  split_ifs at hid with hbad
  rw [Bool.or_eq_true, not_or] at hbad
  rw [PromptTruncation.check, if_neg hbad.1]

/-- The reason that the code gives for a fragment that is cut. -/
def reasonOf (emitted : JavaString) : TruncationReason :=
  reason ((utf8Bytes emitted : ℤ) + separatorOf emitted + utf8Bytes fragment.text)
    (estimateTokensForBytes
      ((utf8Bytes emitted : ℤ) + separatorOf emitted + utf8Bytes fragment.text)) budget

/-- The entries of a fragment in the list of truncations. -/
def truncationsOf (emitted : JavaString) : List PromptTruncation :=
  if partOf budget fragment emitted = fragment.text then []
  else [⟨fragment.id, fragment.layer, reasonOf budget fragment emitted⟩]

lemma includedText_eq (emitted : JavaString) :
    includedText fragment.text (separatorOf emitted)
      ((budget.maxUtf8Bytes : ℤ) - utf8Bytes emitted - separatorOf emitted)
      ((utf8Bytes emitted : ℤ) + separatorOf emitted) budget.maxTokens =
        .ok (partOf budget fragment emitted) := by
  rw [includedText]
  split_ifs with hrefused
  · rw [partOf_eq_nil]
    rw [SeparatorFits, not_and_or, not_le, not_le]
    exact hrefused
  · have hsmall : ((encodedChars fragment.text).map width).sum ≤ intMax := by
      rw [← utf8Bytes_units, ← fragment.text_eq]
      exact fragment.utf8Bytes_le.trans (by decide)
    rw [fragment.text_eq, fitPrefix_units _ hsmall, partOf]

lemma included_eq (emitted : JavaString) :
    (if emits budget fragment emitted then partOf budget fragment emitted else []) =
      partOf budget fragment emitted := by
  by_cases hemits : emits budget fragment emitted = true
  · rw [if_pos hemits]
  · rw [if_neg hemits]
    by_contra hsome
    have hfits : SeparatorFits budget emitted := by
      by_contra h
      exact hsome (partOf_eq_nil budget fragment h).symm
    exact hemits (by simp [emits, hfits, Ne.symm hsome])

lemma text_eq_textAfter (emitted : JavaString) :
    (if emits budget fragment emitted then
        emitted ++ (if (separatorOf emitted : ℤ) = 0 then [] else separator) ++
          partOf budget fragment emitted
      else emitted) = textAfter budget fragment emitted := by
  rw [textAfter, extended]
  cases emitted with
  | nil => rfl
  | cons u emitted => rfl

lemma bytesBehind_eq (hemitted : IsText emitted)
    (hsmall : utf8Bytes emitted + 1 + maxFragmentUtf8Bytes ≤ intMax) :
    bytesBehind (emits budget fragment emitted) (utf8Bytes emitted) (separatorOf emitted)
        (partOf budget fragment emitted) =
      .ok (utf8Bytes (textAfter budget fragment emitted)) := by
  have hone := separatorOf_le_one emitted
  have hpart := utf8Bytes_partOf_le budget fragment emitted
  have hfragment := fragment.utf8Bytes_le
  by_cases hemits : emits budget fragment emitted = true
  · rw [bytesBehind, if_pos hemits, int_of_le (by omega) (by omega), ok_bind,
      int_of_le (by omega) (by omega), textAfter, if_pos hemits,
      utf8Bytes_extended hemitted (isText_partOf budget fragment emitted)]
    congr 1
    push_cast
    exact (Int.add_assoc _ _ _).symm
  · rw [bytesBehind, if_neg hemits, textAfter, if_neg hemits]

lemma truncationEntries_eq (emitted : JavaString) :
    truncationEntries budget fragment (partOf budget fragment emitted)
        ((utf8Bytes emitted : ℤ) + separatorOf emitted + utf8Bytes fragment.text) =
      .ok (truncationsOf budget fragment emitted) := by
  rw [truncationEntries, truncationsOf]
  split_ifs with hwhole
  · rfl
  · rw [check_truncation, ok_bind]
    rfl

/-- **What `appendFragment` does**: no computation leaves the range of an `int`, the constructors
accept what they are given, and the contribution is the longest prefix that fits. -/
theorem appendFragment_eq {most : ℕ} {output : Output} (hsound : output.Sound budget most)
    (hmost : most + 1 + maxFragmentUtf8Bytes ≤ intMax) :
    appendFragment budget output fragment = .ok
      { text := textAfter budget fragment output.text
        bytes := utf8Bytes (textAfter budget fragment output.text)
        tokens := ((utf8Bytes (textAfter budget fragment output.text) + 3) / 4 : ℕ)
        provenance := output.provenance ++
          [provenanceOf fragment (partOf budget fragment output.text)]
        truncations := output.truncations ++ truncationsOf budget fragment output.text } := by
  obtain ⟨htext, hbytes, htokens, hwithin, hle⟩ := hsound
  have hbudget := budget.maxUtf8Bytes_le
  have hfragment := fragment.utf8Bytes_le
  have hone := separatorOf_le_one output.text
  have hpart := utf8Bytes_partOf_le budget fragment output.text
  have hsmall : utf8Bytes output.text + 1 + maxFragmentUtf8Bytes ≤ intMax := by omega
  have hsep : (if output.text.isEmpty then (0 : ℤ) else 1) = (separatorOf output.text : ℤ) := by
    rw [separatorOf]
    split_ifs <;> rfl
  have hfree : int ((budget.maxUtf8Bytes : ℤ) - utf8Bytes output.text) =
      .ok ((budget.maxUtf8Bytes : ℤ) - utf8Bytes output.text) :=
    int_of_le (by have := hwithin.1; omega) (by omega)
  have havailable : int ((budget.maxUtf8Bytes : ℤ) - utf8Bytes output.text -
        separatorOf output.text) =
      .ok ((budget.maxUtf8Bytes : ℤ) - utf8Bytes output.text - separatorOf output.text) :=
    int_of_le (by have := hwithin.1; omega) (by omega)
  have hbase : int ((utf8Bytes output.text : ℤ) + separatorOf output.text) =
      .ok ((utf8Bytes output.text : ℤ) + separatorOf output.text) :=
    int_of_le (by omega) (by omega)
  have hemits : (decide ((separatorOf output.text : ℤ) ≤ (budget.maxUtf8Bytes : ℤ) -
        utf8Bytes output.text - separatorOf output.text ∧
      estimateTokensForBytes ((utf8Bytes output.text : ℤ) + separatorOf output.text) ≤
        budget.maxTokens) &&
      (!(partOf budget fragment output.text).isEmpty || fragment.text.isEmpty)) =
    emits budget fragment output.text := rfl
  have htokensAfter :
      (if emits budget fragment output.text then
          estimateTokensForBytes (utf8Bytes (textAfter budget fragment output.text))
        else output.tokens) =
        ((utf8Bytes (textAfter budget fragment output.text) + 3) / 4 : ℕ) := by
    obtain ⟨-, -, hgrown⟩ := textAfter_spec budget fragment htext hwithin
    split_ifs with hemit
    · exact estimateTokensForBytes_eq (by omega)
    · rw [htokens, textAfter, if_neg hemit]
  simp only [appendFragment, hsep, hbytes, hfree, ok_bind, havailable, hbase, includedText_eq,
    hemits, included_eq, bytesBehind_eq budget fragment htext hsmall, truncationEntries_eq, text_eq_textAfter,
    htokensAfter]
  have hcheck := check_provenanceOf budget fragment output.text
  rw [provenanceOf] at hcheck
  rw [hcheck, ok_bind]
  rfl

end Append

/-! ## All fragments -/

section Loop

variable {budget : PromptBudget}

/-- The most bytes that a fragment adds. -/
def mostBytes (fragment : PromptFragment) : ℕ := 1 + utf8Bytes fragment.text

/-- What the loop has put into the lists behind those of `before`. -/
structure Recorded (contributions : List (PromptFragment × JavaString)) (before after : Output) :
    Prop where
  provenance : after.provenance =
    before.provenance ++ contributions.map fun c => provenanceOf c.1 c.2
  truncations : ∃ cuts, after.truncations = before.truncations ++ cuts ∧
    cuts.map (fun t => (t.id, t.layer)) =
      (contributions.filter isCut).map (fun c => (c.1.id, c.1.layer)) ∧
    ∀ t ∈ cuts, t.reason ≠ .droppedAfterBudget

lemma Recorded.cons {contribution : PromptFragment × JavaString}
    {contributions : List (PromptFragment × JavaString)} {before middle after : Output}
    (hfirst : Recorded [contribution] before middle) (hrest : Recorded contributions middle after) :
    Recorded (contribution :: contributions) before after := by
  obtain ⟨hprovenance, cuts, hcuts, hnames, hreasons⟩ := hfirst
  obtain ⟨hprovenance', cuts', hcuts', hnames', hreasons'⟩ := hrest
  refine ⟨?_, cuts ++ cuts', ?_, ?_, ?_⟩
  · rw [hprovenance', hprovenance, List.append_assoc]
    rfl
  · rw [hcuts', hcuts, List.append_assoc]
  · rw [List.map_append, hnames, hnames', ← List.map_append, ← List.filter_append,
      List.singleton_append]
  · intro t ht
    rcases List.mem_append.mp ht with hold | hnew
    · exact hreasons t hold
    · exact hreasons' t hnew

lemma appendFragment_step {most : ℕ} {output : Output} (fragment : PromptFragment)
    (hsound : output.Sound budget most) (hmost : most + 1 + maxFragmentUtf8Bytes ≤ intMax) :
    ∃ part after, appendFragment budget output fragment = .ok after ∧
      Contributes budget output.text fragment part after.text ∧
      after.Sound budget (most + mostBytes fragment) ∧ Recorded [(fragment, part)] output after := by
  obtain ⟨htext, hwithin, hgrown⟩ := textAfter_spec budget fragment hsound.text hsound.within
  have hle := hsound.bytes_le
  refine ⟨_, _, appendFragment_eq budget fragment hsound hmost,
    contributes_textAfter budget fragment hsound.text, ⟨htext, rfl, rfl, hwithin, ?_⟩, rfl, _, rfl,
    ?_, ?_⟩
  · show utf8Bytes (textAfter budget fragment output.text) ≤ _
    rw [mostBytes]
    omega
  · by_cases hwhole : partOf budget fragment output.text = fragment.text
    · simp [truncationsOf, isCut, hwhole]
    · have hcut : isCut (fragment, partOf budget fragment output.text) = true :=
        bne_iff_ne.mpr hwhole
      rw [truncationsOf, if_neg hwhole, List.filter_cons_of_pos hcut]
      rfl
  · intro t ht
    rw [truncationsOf] at ht
    split_ifs at ht with hwhole
    · exact absurd ht List.not_mem_nil
    · rw [List.mem_singleton.mp ht]
      have hfragment := fragment.utf8Bytes_le
      exact reason_ne_dropped budget fragment hsound.text (by omega) hwhole

lemma foldlM_appendFragment (fragments : List PromptFragment) {most : ℕ} {output : Output}
    (hsound : output.Sound budget most)
    (hmost : most + (fragments.map mostBytes).sum + 1 + maxFragmentUtf8Bytes ≤ intMax) :
    ∃ contributions final, fragments.foldlM (appendFragment budget) output = .ok final ∧
      contributions.map Prod.fst = fragments ∧
      Assembles budget output.text contributions final.text ∧
      final.Sound budget (most + (fragments.map mostBytes).sum) ∧
      Recorded contributions output final := by
  induction fragments generalizing most output with
  | nil =>
    exact ⟨[], output, rfl, rfl, .nil _, hsound, (List.append_nil _).symm, [],
      (List.append_nil _).symm, rfl, fun t ht => absurd ht List.not_mem_nil⟩
  | cons fragment fragments ih =>
    rw [List.map_cons, List.sum_cons] at hmost ⊢
    obtain ⟨part, after, hstep, hcontributes, hsound', hrecorded⟩ :=
      appendFragment_step fragment hsound (by omega)
    obtain ⟨contributions, final, hrest, hnames, hassembles, hfinal, hrecorded'⟩ :=
      ih hsound' (by omega)
    refine ⟨(fragment, part) :: contributions, final, ?_, ?_, .cons hcontributes hassembles, ?_,
      hrecorded.cons hrecorded'⟩
    · rw [List.foldlM_cons, hstep, ok_bind]
      exact hrest
    · rw [List.map_cons, hnames]
    · rw [← Nat.add_assoc]
      exact hfinal

/-- Fragments that are accepted are small enough for an `int`. -/
lemma sum_mostBytes_le {trustedSystemEntry : Bool} {fragments : List PromptFragment}
    (h : Accepted trustedSystemEntry fragments) (hlength : fragments.length ≤ maxFragments) :
    (fragments.map mostBytes).sum ≤ maxFragments + maxTotalUtf8Bytes := by
  have hsum : (fragments.map mostBytes).sum = fragments.length +
      (fragments.map fun fragment => utf8Bytes fragment.text).sum := by
    clear h hlength
    induction fragments with
    | nil => rfl
    | cons fragment fragments ih =>
      rw [List.map_cons, List.sum_cons, ih, List.map_cons, List.sum_cons, List.length_cons,
        mostBytes]
      omega
  rw [hsum]
  exact Nat.add_le_add hlength h.bytes

end Loop

/-! ## Lines -/

section Lines

lemma intercalate_concat {s : JavaString} {lines : List JavaString} (h : lines ≠ [])
    (line : JavaString) : s.intercalate (lines ++ [line]) = s.intercalate lines ++ s ++ line := by
  induction lines with
  | nil => exact absurd rfl h
  | cons first lines ih =>
    cases lines with
    | nil => simp [List.intercalate]
    | cons second lines =>
      rw [List.cons_append, List.cons_append, List.intercalate_cons_cons,
        List.intercalate_cons_cons, ← List.cons_append, ih (List.cons_ne_nil _ _)]
      simp only [List.append_assoc]

lemma extended_eq_intercalate {emitted : JavaString} {lines : List JavaString}
    (hlines : emitted = separator.intercalate lines) (hempty : emitted = [] → lines = [])
    (part : JavaString) : extended emitted part = separator.intercalate (lines ++ [part]) := by
  rw [extended]
  split_ifs with hnil
  · rw [hempty hnil]
    simp [List.intercalate]
  · have hsome : lines ≠ [] := by
      rintro rfl
      exact hnil hlines
    rw [intercalate_concat hsome, hlines]

/-- What was emitted are lines with breaks between them, and none for the empty text. -/
lemma Assembles.joined {budget : PromptBudget} {emitted final : JavaString}
    {contributions : List (PromptFragment × JavaString)}
    (h : Assembles budget emitted contributions final) (lines : List JavaString)
    (hlines : emitted = separator.intercalate lines) (hempty : emitted = [] → lines = []) :
    ∃ more : List (PromptFragment × JavaString), more.Sublist contributions ∧
      more.filter (fun c => !c.2.isEmpty) = contributions.filter (fun c => !c.2.isEmpty) ∧
      (∀ line ∈ more, line.2 = [] → line.1.text = []) ∧
      final = separator.intercalate (lines ++ more.map Prod.snd) := by
  induction h generalizing lines with
  | nil emitted =>
    refine ⟨[], .refl _, rfl, fun line hline => absurd hline List.not_mem_nil, ?_⟩
    rw [List.map_nil, List.append_nil]
    exact hlines
  | @cons emitted emitted' final part fragment rest hfirst hrest ih =>
    -- the contribution has a line of its own, or the text stays as it is
    have hline : emitted' = extended emitted part → emitted' ≠ [] →
        (part = [] → fragment.text = []) → ∃ more : List (PromptFragment × JavaString),
          more.Sublist ((fragment, part) :: rest) ∧
          more.filter (fun c => !c.2.isEmpty) =
            ((fragment, part) :: rest).filter (fun c => !c.2.isEmpty) ∧
          (∀ line ∈ more, line.2 = [] → line.1.text = []) ∧
          final = separator.intercalate (lines ++ more.map Prod.snd) := by
      intro heq hsome htext
      obtain ⟨more, hsublist, hfilter, hlines', hfinal⟩ :=
        @ih (lines ++ [part]) (heq.trans (extended_eq_intercalate hlines hempty part))
          (fun hnil => absurd hnil hsome)
      refine ⟨(fragment, part) :: more, hsublist.cons_cons _, ?_, ?_, ?_⟩
      · rw [List.filter_cons, List.filter_cons, hfilter]
      · exact List.forall_mem_cons.mpr ⟨htext, hlines'⟩
      · rw [hfinal, List.map_cons, List.append_assoc, List.singleton_append]
    have hsilent : emitted' = emitted → part = [] →
        ∃ more : List (PromptFragment × JavaString),
          more.Sublist ((fragment, part) :: rest) ∧
          more.filter (fun c => !c.2.isEmpty) =
            ((fragment, part) :: rest).filter (fun c => !c.2.isEmpty) ∧
          (∀ line ∈ more, line.2 = [] → line.1.text = []) ∧
          final = separator.intercalate (lines ++ more.map Prod.snd) := by
      rintro rfl rfl
      obtain ⟨more, hsublist, hfilter, hlines', hfinal⟩ := ih lines hlines hempty
      exact ⟨more, hsublist.cons _, hfilter, hlines', hfinal⟩
    cases hfirst with
    | part hpart hsome =>
      refine hline rfl (fun hnil => hsome ?_) fun hnil => absurd hnil hsome
      rw [extended] at hnil
      split_ifs at hnil with hemitted
      · exact hnil
      · exact (List.append_eq_nil_iff.mp hnil).2
    | dropped hpart htext => exact hsilent rfl rfl
    | empty htext hemitted =>
      rcases hemitted with rfl | heq
      · exact hsilent rfl rfl
      · by_cases hnil : emitted = []
        · refine hsilent (heq.trans ?_) rfl
          rw [extended, if_pos hnil, hnil]
        · refine hline heq ?_ fun _ => htext
          rw [heq, extended, if_neg hnil]
          simp [hnil]

end Lines

/-! ## Compilations -/

section Compilations

variable {budget : PromptBudget} {trustedSystemEntry : Bool} {fragments : List PromptFragment}

lemma sound_empty (budget : PromptBudget) : Output.Sound budget 0 {} :=
  ⟨isText_nil, rfl, rfl, ⟨Nat.zero_le _, Nat.zero_le _⟩, le_rfl⟩

/-- Fragments that are accepted are compiled, by their order among each other. -/
lemma compileInternal_of_accepted (h : Accepted trustedSystemEntry fragments)
    (hlength : fragments.length ≤ maxFragments) :
    ∃ contributions result, Compiled budget fragments contributions result ∧
      ∀ fragments', fragments'.Perm fragments →
        compileInternal fragments' budget trustedSystemEntry = .ok result := by
  have hsum : ((sorted fragments).map mostBytes).sum ≤ maxFragments + maxTotalUtf8Bytes :=
    sum_mostBytes_le (h.of_perm (sorted_perm fragments))
      ((sorted_perm fragments).length_eq.le.trans hlength)
  have hmax : maxFragments + maxTotalUtf8Bytes + 1 + maxFragmentUtf8Bytes ≤ intMax := by decide
  obtain ⟨contributions, final, hloop, hnames, hassembles, hsound, hprovenance, cuts, hcuts,
    htruncated, hreasons⟩ := foldlM_appendFragment (sorted fragments) (sound_empty budget)
    (by omega)
  refine ⟨contributions,
    ⟨version, final.text, final.bytes, final.tokens, final.provenance, final.truncations⟩,
    ?_, ?_⟩
  · refine
      { perm := ?_
        sorted := ?_
        assembles := hassembles
        joined := hassembles.joined [] rfl fun _ => rfl
        bytes := hsound.bytes
        bytes_le := ?_
        tokens := hsound.tokens
        tokens_le := ?_
        provenance := hprovenance
        truncations := ?_
        reasons := ?_ }
    · rw [hnames]
      exact sorted_perm fragments
    · rw [hnames]
      exact pairwise_sorted fragments
    · rw [hsound.bytes]
      exact Int.ofNat_le.mpr hsound.within.1
    · rw [hsound.tokens]
      exact Int.ofNat_le.mpr hsound.within.2
    · rw [← htruncated]
      exact congrArg _ hcuts
    · rw [hcuts]
      exact hreasons
  · intro fragments' hperm
    obtain ⟨totals, htotals⟩ := accepted_iff.mpr (h.of_perm hperm)
    have hfew : decide (fragments'.length > maxFragments) = false := by
      rw [hperm.length_eq]
      exact decide_eq_false (Nat.not_lt_of_le hlength)
    have hsorted : (fragments'.mergeSort fun a b => (order a b).isLE) = sorted fragments :=
      sorted_eq_of_perm h.ids hperm
    have hcheck : ¬ (final.bytes < 0 ∨ final.tokens < 0) := by
      rw [hsound.bytes, hsound.tokens]
      omega
    rw [compileInternal, hfew, reject_false, ok_bind, htotals, ok_bind, hsorted]
    show (List.foldlM (appendFragment budget) {} (sorted fragments) >>= _) = _
    rw [hloop, ok_bind, PromptCompilation.check, if_neg hcheck]

lemma accepted_of_compileInternal {result : PromptCompilation}
    (h : compileInternal fragments budget trustedSystemEntry = .ok result) :
    Accepted trustedSystemEntry fragments ∧ fragments.length ≤ maxFragments := by
  rw [compileInternal, bind_eq_ok] at h
  obtain ⟨_, hfew, h⟩ := h
  obtain ⟨totals, htotals, -⟩ := bind_eq_ok.mp h
  refine ⟨accepted_iff.mp ⟨totals, htotals⟩, ?_⟩
  exact Nat.le_of_not_lt (of_decide_eq_false (reject_eq_ok.mp hfew))

/-- No computation leaves the range of an `int`. -/
lemma compileInternal_ne_overflow (budget : PromptBudget) (trustedSystemEntry : Bool)
    (fragments : List PromptFragment) :
    compileInternal fragments budget trustedSystemEntry ≠ .error .overflow := by
  cases hfew : decide (fragments.length > maxFragments) with
  | true =>
    rw [compileInternal, hfew, reject_true, error_bind]
    simp
  | false =>
    cases hloop : fragments.foldlM (checkFragment trustedSystemEntry) {} with
    | error fault =>
      have hfault := @foldlM_checkFragment_ne_overflow trustedSystemEntry fragments {}
      rw [hloop] at hfault
      rw [compileInternal, hfew, reject_false, ok_bind, hloop, error_bind]
      simpa using hfault
    | ok totals =>
      obtain ⟨contributions, result, -, hresult⟩ := @compileInternal_of_accepted budget _ _
        (accepted_iff.mp ⟨totals, hloop⟩) (Nat.le_of_not_lt (of_decide_eq_false hfew))
      rw [hresult fragments (.refl _)]
      simp

lemma compiled_of_compileInternal {result : PromptCompilation}
    (h : compileInternal fragments budget trustedSystemEntry = .ok result) :
    (∃ contributions, Compiled budget fragments contributions result) ∧
      ∀ fragments', fragments'.Perm fragments →
        compileInternal fragments' budget trustedSystemEntry = .ok result := by
  obtain ⟨haccepted, hlength⟩ := accepted_of_compileInternal h
  obtain ⟨contributions, result', hcompiled, hresult⟩ :=
    @compileInternal_of_accepted budget _ _ haccepted hlength
  obtain rfl : result = result' := Except.ok.inj (h.symm.trans (hresult fragments (.refl _)))
  exact ⟨⟨contributions, hcompiled⟩, hresult⟩

/-- **Prompt compilation.**  Whatever the budget and the fragments, with a system prompt or without,
no computation overflows; and what is compiled is what the fragments contribute in their order, each
the longest prefix of its text that fits behind the others, counted, recorded and within the budgets,
whatever the order that they were given in. -/
theorem compile_spec (budget : PromptBudget) :
    (∀ fragments, compile fragments budget ≠ .error .overflow ∧
      ∀ result, compile fragments budget = .ok result →
        (∃ contributions, Compiled budget fragments contributions result) ∧
          ∀ fragments', fragments'.Perm fragments → compile fragments' budget = .ok result) ∧
    ∀ system fragments, compileTrusted system fragments budget ≠ .error .overflow ∧
      ∀ result, compileTrusted system fragments budget = .ok result →
        (∃ contributions, Compiled budget (system.fragment :: fragments) contributions result) ∧
          ∀ fragments', fragments'.Perm fragments →
            compileTrusted system fragments' budget = .ok result := by
  refine ⟨fun fragments => ⟨compileInternal_ne_overflow budget false fragments, fun result h => ?_⟩,
    fun system fragments => ⟨compileInternal_ne_overflow budget true _, fun result h => ?_⟩⟩
  · exact compiled_of_compileInternal h
  · obtain ⟨hcompiled, hperm⟩ := compiled_of_compileInternal h
    exact ⟨hcompiled, fun fragments' h' => hperm _ (h'.cons _)⟩

/-- A fragment of a project. -/
def sampleFragment : PromptFragment where
  layer := .project
  id := java "p1"
  source := java "readme"
  text := java "abc"
  trustedSystem := false
  id_ok := by decide
  source_ok := by decide
  text_ok := by decide +kernel

/-- A budget of two bytes. -/
def twoBytes : PromptBudget := ⟨2, 8, by decide, by decide⟩

/-- The text of the fragment is cut. -/
def cutCompilation : PromptCompilation where
  compilerVersion := version
  text := java "ab"
  utf8Bytes := 2
  estimatedTokens := 1
  provenance := [⟨.project, java "p1", java "readme", 3, 2, 1, 1⟩]
  truncations := [⟨java "p1", .project, .utf8Budget⟩]

theorem compile_spec_cut :
    ∃ contributions, Compiled twoBytes [sampleFragment] contributions cutCompilation :=
  (((compile_spec twoBytes).1 [sampleFragment]).2 cutCompilation (by decide +kernel)).1

end Compilations

end JaDesktop.Prompt
