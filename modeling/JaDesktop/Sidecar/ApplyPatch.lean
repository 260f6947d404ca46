import JaDesktop.Lib.Outcomes
import JaDesktop.Lib.Substring
import JaDesktop.Lib.Utf8

/-!
# The apply_patch tool

`applyPatch` edits one file: it reads the file, compares its digest with the one the model saw,
edits the decoded text, reads the file again, writes the new bytes to a temporary sibling and moves
that over the file.  The digest is a parameter; every step on the file system may fail.

A Java string that is well-formed Unicode is a list of scalar values here.  The decoder builds only
such strings, and a search by code units finds a well-formed text at character boundaries only.
-/

namespace JaDesktop.Sidecar

/-- `JaApplyPatchTool.MAX_PATCH_BYTES`. -/
def maxPatchBytes : ℕ := 8 * 1024 * 1024

/-! ## The file system -/

/-- What a path of the workspace names. -/
inductive TargetNode
  | regular (content : List UInt8)
  | other
deriving DecidableEq

/-- The target of a patch and its temporary sibling. -/
structure PatchDisk where
  target : TargetNode
  temporary : Option (List UInt8) := none
deriving DecidableEq

/-- One reading of a file: whether it goes through, and the parts in which the stream gives the
content. -/
structure Reading where
  succeeds : Bool
  parts : List UInt8 → List (List UInt8)
  flatten_parts : ∀ content, (parts content).flatten = content

/-- `Files.write` of a new file: it goes through, or it fails and may leave a part behind. -/
inductive Writing
  | complete
  | failed (left : Option (List UInt8))
deriving DecidableEq

/-- What the file system does in one call of the tool. -/
structure PatchIo where
  /-- `resolveWorkspacePath` accepts the path. -/
  resolves : Bool
  firstRead : Reading
  secondRead : Reading
  write : Writing
  /-- The atomic move goes through. -/
  moves : Bool
  /-- `deleteIfExists` on the temporary file goes through. -/
  cleans : Bool

/-- The loop of `readBounded`: the parts one after the other, within the budget. -/
def readParts (content : List UInt8) : List (List UInt8) → Option (List UInt8)
  | [] => some content
  | part :: parts =>
    if maxPatchBytes - content.length < part.length then none
    else readParts (content ++ part) parts

/-- `readBounded`; `none` is an `IOException`. -/
def readBounded (reading : Reading) (content : List UInt8) : Option (List UInt8) :=
  if maxPatchBytes < content.length then none
  else if reading.succeeds then readParts [] (reading.parts content)
  else none

/-! ## The edit -/

/-- The arguments of the tool; those that the model can leave out are `Option`s. -/
structure PatchCall where
  path : String
  expectedSha256 : Option String
  oldString : Option (List Char)
  newString : Option (List Char)
  replaceAll : Option Bool := none
deriving DecidableEq

/-- What the tool answers. -/
inductive PatchAnswer
  | invalidArguments
  | outsideWorkspace
  | notRegular
  | hashConflict
  | notFound
  | notUnique
  | overBudget
  | changedMeanwhile
  | patched (path hash : String)
  | notCommitted
deriving DecidableEq

/-- The text of an answer. -/
def PatchAnswer.text : PatchAnswer → String
  | .invalidArguments => "Error: invalid patch arguments"
  | .outsideWorkspace => "Error: path is outside workspace"
  | .notRegular => "Error: target is not a regular file"
  | .hashConflict => "CONFLICT: expected hash does not match current file"
  | .notFound => "CONFLICT: old_string was not found"
  | .notUnique => "CONFLICT: old_string is not unique"
  | .overBudget => "Error: patch exceeds byte budget"
  | .changedMeanwhile => "CONFLICT: file changed during patch preparation"
  | .patched path hash => "Patched " ++ path ++ " (" ++ hash ++ ")"
  | .notCommitted => "Error: patch could not be committed"

/-- The pattern `[0-9a-fA-F]{64}`. -/
def matchesSha256 (s : String) : Bool :=
  s.toList.length == 64 && s.toList.all fun c => c.isDigit || ('a' ≤ c && c ≤ 'f') || ('A' ≤ c && c ≤ 'F')

/-- `equalsIgnoreCase` on hexadecimal digits. -/
def equalsIgnoreCase (s t : String) : Bool := s.toList.map Char.toLower == t.toList.map Char.toLower

/-- The arguments of a call that pass the first check: the expected digest, the old and the new
string. -/
def checkArguments (call : PatchCall) : Option (String × List Char × List Char) :=
  match call.expectedSha256, call.oldString, call.newString with
  | some expected, some old, some new =>
    if !matchesSha256 expected || old.isEmpty || old == new then none else some (expected, old, new)
  | _, _, _ => none

def replaceUnique (source old new : List Char) : Option (List Char) :=
  match indexOf old source with
  | none => none
  | some first =>
    if (indexFrom old source (first + old.length)).isSome then none
    else some (source.take first ++ new ++ source.drop (first + old.length))

/-- The text after the edit, or the answer that refuses it. -/
def editText (source old new : List Char) (replaceAll : Option Bool) :
    Except PatchAnswer (List Char) :=
  if replaceAll = some true then
    if (indexOf old source).isSome then .ok (replaceEach old new source) else .error .notFound
  else
    match replaceUnique source old new with
    | some replacement => .ok replacement
    | none => .error .notUnique

/-- A value, or the answer of the tool where there is none. -/
def orAnswer {α : Type} (answer : PatchAnswer) : Option α → Except PatchAnswer α
  | some a => .ok a
  | none => .error answer

lemma orAnswer_eq_ok {α : Type} {answer : PatchAnswer} {value : Option α} {a : α}
    (h : orAnswer answer value = .ok a) : value = some a := by
  cases value with
  | none => cases h
  | some a' =>
    cases h
    rfl

/-- The content of a regular file. -/
def TargetNode.content : TargetNode → Option (List UInt8)
  | .regular content => some content
  | .other => none

section Tool

variable (sha256 : List UInt8 → String) (io : PatchIo) (call : PatchCall) (disk : PatchDisk)

/-- `applyPatch` up to the temporary file: the bytes to be written.  A reading that fails is an
`IOException`. -/
def preparePatch : Except PatchAnswer (List UInt8) := do
  let (expected, old, new) ← orAnswer .invalidArguments (checkArguments call)
  reject (!io.resolves) .outsideWorkspace
  let content ← orAnswer .notRegular disk.target.content
  let before ← orAnswer .notCommitted (readBounded io.firstRead content)
  reject (!equalsIgnoreCase (sha256 before) expected) .hashConflict
  let replacement ← editText (decodeUtf8 before) old new call.replaceAll
  let after := utf8 replacement
  reject (maxPatchBytes < after.length) .overBudget
  let latest ← orAnswer .notCommitted (readBounded io.secondRead content)
  reject (!equalsIgnoreCase (sha256 latest) expected) .changedMeanwhile
  return after

/-- `JaApplyPatchTool.applyPatch`: its answer and the files it leaves. -/
def applyPatch : PatchAnswer × PatchDisk :=
  match preparePatch sha256 io call disk with
  | .error answer => (answer, disk)
  | .ok after =>
    match io.write with
    | .failed left => (.notCommitted, { disk with temporary := left })
    | .complete =>
      if !io.moves then
        (.notCommitted, { disk with temporary := if io.cleans then none else some after })
      else if !io.cleans then (.notCommitted, ⟨.regular after, none⟩)
      else (.patched call.path (sha256 after), ⟨.regular after, none⟩)

end Tool

/-! ## Reading -/

lemma readParts_eq (content : List UInt8) (parts : List (List UInt8))
    (h : (content ++ parts.flatten).length ≤ maxPatchBytes) :
    readParts content parts = some (content ++ parts.flatten) := by
  induction parts generalizing content with
  | nil => rw [readParts, List.flatten_nil, List.append_nil]
  | cons part parts ih =>
    rw [List.flatten_cons, List.length_append, List.length_append] at h
    rw [readParts, if_neg (by omega), ih (content ++ part), List.flatten_cons, List.append_assoc]
    rw [List.length_append, List.length_append]
    omega

lemma readBounded_eq_some {reading : Reading} {content bytes : List UInt8}
    (h : readBounded reading content = some bytes) : bytes = content := by
  rw [readBounded] at h
  split_ifs at h with hlarge hsucceeds
  rw [readParts_eq [] _ (by rw [List.nil_append, reading.flatten_parts]; omega), List.nil_append,
    reading.flatten_parts] at h
  exact (Option.some_inj.mp h).symm

/-! ## The edit of the text -/

lemma checkArguments_eq_some {call : PatchCall} {expected : String} {old new : List Char}
    (h : checkArguments call = some (expected, old, new)) :
    call.oldString = some old ∧ call.newString = some new ∧ old ≠ [] ∧ old ≠ new := by
  rw [checkArguments] at h
  split at h
  next e o n he ho hn =>
    by_cases hbad : (!matchesSha256 e || o.isEmpty || o == n) = true
    · rw [if_pos hbad] at h
      cases h
    · rw [if_neg hbad] at h
      cases h
      simp only [Bool.or_eq_true, not_or, List.isEmpty_iff, beq_iff_eq] at hbad
      exact ⟨ho, hn, hbad.1.2, hbad.2⟩
  next => cases h

variable {source old new text : List Char} {replaceAll : Option Bool}

lemma replaceUnique_eq_some (hold : old ≠ []) (h : replaceUnique source old new = some text) :
    ∃ p q, source = p ++ (old ++ q) ∧ text = p ++ (new ++ q) ∧ indexOf old source = some p.length ∧
      ∀ i, p.length + old.length ≤ i → ¬OccursAt old source i := by
  rw [replaceUnique] at h
  cases hfirst : indexOf old source with
  | none =>
    rw [hfirst] at h
    cases h
  | some first =>
    rw [hfirst] at h
    dsimp only at h
    by_cases hsecond : (indexFrom old source (first + old.length)).isSome = true
    · rw [if_pos hsecond] at h
      cases h
    · rw [if_neg hsecond] at h
      rw [Option.not_isSome_iff_eq_none, indexFrom_eq_none_iff hold] at hsecond
      obtain ⟨p, q, hsource, hp⟩ := (occursAt_iff hold).mp (occursAt_of_indexOf hfirst)
      subst hp
      refine ⟨p, q, hsource, ?_, rfl, hsecond⟩
      rw [← Option.some_inj.mp h, hsource, List.take_left, ← List.append_assoc,
        ← List.length_append, List.drop_left, List.append_assoc]

/-- Every edit that goes through replaces occurrences and changes nothing else. -/
lemma edited_of_editText (hold : old ≠ []) (h : editText source old new replaceAll = .ok text) :
    Edited old new source text := by
  rw [editText] at h
  by_cases hall : replaceAll = some true
  · rw [if_pos hall] at h
    by_cases hfound : (indexOf old source).isSome = true
    · rw [if_pos hfound] at h
      cases h
      obtain ⟨i, hi⟩ := Option.isSome_iff_exists.mp hfound
      exact edited_replaceEach hold (occursAt_of_indexOf hi)
    · rw [if_neg hfound] at h
      cases h
  · rw [if_neg hall] at h
    cases hunique : replaceUnique source old new with
    | none =>
      rw [hunique] at h
      cases h
    | some replacement =>
      rw [hunique] at h
      cases h
      obtain ⟨p, q, rfl, rfl, -⟩ := replaceUnique_eq_some hold hunique
      exact edited_one p q

/-- Without `replace_all` the edit that goes through has found one occurrence that no later one
follows. -/
lemma lastOccurrence_of_editText (hold : old ≠ []) (hall : replaceAll ≠ some true)
    (h : editText source old new replaceAll = .ok text) :
    ∃ first, indexOf old source = some first ∧
      ∀ i, first + old.length ≤ i → ¬OccursAt old source i := by
  rw [editText, if_neg hall] at h
  cases hunique : replaceUnique source old new with
  | none =>
    rw [hunique] at h
    cases h
  | some replacement =>
    obtain ⟨p, q, -, -, hfirst, hlast⟩ := replaceUnique_eq_some hold hunique
    exact ⟨p.length, hfirst, hlast⟩

/-! ## Occurrences in the text and in its bytes -/

lemma occursAt_utf8_iff (hold : old ≠ []) {k : ℕ} :
    OccursAt (utf8 old) (utf8 source) k ↔
      ∃ i, OccursAt old source i ∧ (utf8 (source.take i)).length = k := by
  have hbytes : utf8 old ≠ [] := by rwa [Ne, utf8_eq_nil_iff]
  rw [occursAt_iff hbytes]
  constructor
  · rintro ⟨p, q, hpq, rfl⟩
    obtain ⟨before, after, rfl, rfl, -⟩ := exists_of_utf8_eq_append hold hpq
    refine ⟨before.length, (occursAt_iff hold).mpr ⟨before, after, rfl, rfl⟩, ?_⟩
    rw [List.take_left]
  · rintro ⟨i, hi, rfl⟩
    obtain ⟨p, q, rfl, rfl⟩ := (occursAt_iff hold).mp hi
    refine ⟨utf8 p, utf8 q, ?_, by rw [List.take_left]⟩
    rw [utf8_append, utf8_append]

lemma length_utf8_take_lt {i j : ℕ} (hij : i < j) (hj : j ≤ source.length) :
    (utf8 (source.take i)).length < (utf8 (source.take j)).length := by
  have hsplit : source.take j = source.take i ++ (source.drop i).take (j - i) := by
    rw [← List.take_add, Nat.add_sub_cancel' hij.le]
  have hmore : (utf8 ((source.drop i).take (j - i))).length ≠ 0 := by
    rw [Ne, List.length_eq_zero_iff, utf8_eq_nil_iff, ← List.length_eq_zero_iff, List.length_take,
      List.length_drop]
    omega
  rw [hsplit, utf8_append, List.length_append]
  omega

/-- The pattern occurs once in the bytes of a text exactly when it occurs once in the text. -/
lemma existsUnique_utf8_iff (hold : old ≠ []) :
    (∃! k, OccursAt (utf8 old) (utf8 source) k) ↔ ∃! i, OccursAt old source i := by
  have hbound : ∀ {i}, OccursAt old source i → i ≤ source.length := by
    intro i hi
    obtain ⟨p, q, rfl, rfl⟩ := (occursAt_iff hold).mp hi
    rw [List.length_append]
    exact Nat.le_add_right _ _
  constructor
  · rintro ⟨k, hk, hunique⟩
    obtain ⟨i, hi, rfl⟩ := (occursAt_utf8_iff hold).mp hk
    refine ⟨i, hi, ?_⟩
    intro j hj
    have hsame := hunique _ ((occursAt_utf8_iff hold).mpr ⟨j, hj, rfl⟩)
    rcases lt_trichotomy i j with hlt | heq | hgt
    · have := length_utf8_take_lt hlt (hbound hj)
      omega
    · exact heq.symm
    · have := length_utf8_take_lt hgt (hbound hi)
      omega
  · rintro ⟨i, hi, hunique⟩
    refine ⟨_, (occursAt_utf8_iff hold).mpr ⟨i, hi, rfl⟩, ?_⟩
    intro k hk
    obtain ⟨j, hj, rfl⟩ := (occursAt_utf8_iff hold).mp hk
    rw [hunique j hj]

/-! ## Exactly the named text -/

/-- The bytes after the edit are those before it with occurrences of the old string replaced, and
without `replace_all` the old string stood at exactly one position. -/
structure EditsExactly (before after : List UInt8) (old new : List Char)
    (replaceAll : Option Bool) : Prop where
  edited : Edited (utf8 old) (utf8 new) before after
  unique : replaceAll ≠ some true → ∃! i, OccursAt (utf8 old) before i

/-- No second occurrence overlaps the first one. -/
def NoOverlap (source old : List Char) : Prop :=
  ∀ first, indexOf old source = some first → ∀ i, 0 < i → i < old.length →
    ¬OccursAt old source (first + i)

lemma isUtf8_of_pieces (hnew : new ≠ []) {pieces : List (List UInt8)}
    (h : IsUtf8 ((utf8 new).intercalate pieces)) : IsUtf8 ((utf8 old).intercalate pieces) := by
  induction pieces with
  | nil => exact ⟨[], rfl⟩
  | cons piece pieces ih =>
    cases pieces with
    | nil => exact h
    | cons next pieces =>
      rw [List.intercalate_cons_cons, List.append_assoc] at h ⊢
      obtain ⟨hpiece, hrest⟩ := h.of_append hnew
      exact hpiece.append (IsUtf8.append ⟨old, rfl⟩ (ih hrest))

/-- Where a text that is not empty was put between the pieces and the result is a text, the file
was one. -/
lemma isUtf8_of_edited (hnew : new ≠ []) {before after : List UInt8} (hafter : IsUtf8 after)
    (h : Edited (utf8 old) (utf8 new) before after) : IsUtf8 before := by
  obtain ⟨pieces, -, rfl, rfl⟩ := h
  exact isUtf8_of_pieces hnew hafter

/-- On a file that is a text, the edit of the text is the edit of the file. -/
lemma editsExactly_iff (hold : old ≠ []) (h : editText source old new replaceAll = .ok text) :
    EditsExactly (utf8 source) (utf8 text) old new replaceAll ↔
      replaceAll = some true ∨ NoOverlap source old := by
  have hedited : Edited (utf8 old) (utf8 new) (utf8 source) (utf8 text) :=
    (edited_of_editText hold h).flatMap _
  constructor
  · rintro ⟨-, hunique⟩
    by_cases hall : replaceAll = some true
    · exact Or.inl hall
    · right
      intro first hfirst i hpos _ hoccurs
      obtain ⟨k, -, hk⟩ := (existsUnique_utf8_iff hold).mp (hunique hall)
      have hzero := hk first (occursAt_of_indexOf hfirst)
      have hsecond := hk (first + i) hoccurs
      omega
  · intro hcond
    refine ⟨hedited, ?_⟩
    intro hall
    rw [existsUnique_utf8_iff hold]
    obtain ⟨first, hfirst, hlast⟩ := lastOccurrence_of_editText hold hall h
    refine ⟨first, occursAt_of_indexOf hfirst, ?_⟩
    intro j hj
    -- an occurrence stands not before the first one, not inside it and not after it
    have hlow := le_of_indexOf hfirst hj
    by_contra hne
    rcases Nat.lt_or_ge j (first + old.length) with hinside | hafter
    · have hoverlap := hcond.resolve_left hall first hfirst (j - first) (by omega) (by omega)
      rw [Nat.add_sub_cancel' hlow] at hoverlap
      exact hoverlap hj
    · exact hlast j hafter hj

/-! ## The tool -/

section Result

variable (sha256 : List UInt8 → String) (io : PatchIo) (call : PatchCall) (disk : PatchDisk)

/-- What the tool owes its caller: a `Patched` answer stands for exactly the named edit and reports
the digest of the new file, and after every other answer the file is as it was. -/
def PatchesExactly : Prop :=
  match applyPatch sha256 io call disk with
  | (.patched path hash, after) =>
    path = call.path ∧ ∃ old new before bytes, call.oldString = some old ∧
      call.newString = some new ∧ disk.target = .regular before ∧ after.target = .regular bytes ∧
      hash = sha256 bytes ∧ EditsExactly before bytes old new call.replaceAll
  | (_, after) => after.target = disk.target

/-- The call gets as far as the file: everything is checked, written and moved. -/
def ReachesFile : Prop :=
  (∃ after, preparePatch sha256 io call disk = .ok after) ∧ io.write = .complete ∧ io.moves = true

/-- The inputs that the tool handles well: a call that reaches the file finds there the bytes of a
text, in which no second occurrence overlaps the first one if only one is to be replaced, and its
temporary file can be cleaned up. -/
def PatchSafe : Prop :=
  ReachesFile sha256 io call disk → io.cleans = true ∧
    ∀ before old, disk.target = .regular before → call.oldString = some old →
      IsUtf8 before ∧ (call.replaceAll = some true ∨ NoOverlap (decodeUtf8 before) old)

variable {sha256 io call disk}

lemma preparePatch_eq_ok {after : List UInt8} (h : preparePatch sha256 io call disk = .ok after) :
    ∃ old new content text, call.oldString = some old ∧ call.newString = some new ∧ old ≠ [] ∧
      old ≠ new ∧ disk.target = .regular content ∧
      editText (decodeUtf8 content) old new call.replaceAll = .ok text ∧ after = utf8 text := by
  rw [preparePatch] at h
  obtain ⟨⟨expected, old, new⟩, hargs, h⟩ := bind_eq_ok.mp h
  obtain ⟨hcallOld, hcallNew, hold, hne⟩ := checkArguments_eq_some (orAnswer_eq_ok hargs)
  obtain ⟨-, -, h⟩ := bind_eq_ok.mp h
  obtain ⟨content, hcontent, h⟩ := bind_eq_ok.mp h
  obtain ⟨before, hread, h⟩ := bind_eq_ok.mp h
  obtain ⟨-, -, h⟩ := bind_eq_ok.mp h
  obtain ⟨text, hedit, h⟩ := bind_eq_ok.mp h
  dsimp only at h
  obtain ⟨-, -, h⟩ := bind_eq_ok.mp h
  obtain ⟨latest, -, h⟩ := bind_eq_ok.mp h
  obtain ⟨-, -, h⟩ := bind_eq_ok.mp h
  have hafter : utf8 text = after := Except.ok.inj h
  obtain rfl := readBounded_eq_some (orAnswer_eq_ok hread)
  have htarget : disk.target = .regular before := by
    cases htarget : disk.target with
    | regular content =>
      rw [htarget] at hcontent
      cases hcontent
      rfl
    | other =>
      rw [htarget] at hcontent
      cases hcontent
  exact ⟨old, new, before, text, hcallOld, hcallNew, hold, hne, htarget, hedit, hafter.symm⟩

/-- The computation does not answer that the file is patched. -/
def NeverPatched {α : Type} (x : Except PatchAnswer α) : Prop :=
  ∀ path hash, x ≠ .error (.patched path hash)

lemma NeverPatched.bind {α β : Type} {x : Except PatchAnswer α} {f : α → Except PatchAnswer β}
    (hx : NeverPatched x) (hf : ∀ a, NeverPatched (f a)) : NeverPatched (x >>= f) := by
  intro path hash h
  cases x with
  | error answer =>
    rw [error_bind, Except.error.injEq] at h
    subst h
    exact hx path hash rfl
  | ok a => exact hf a path hash h

lemma neverPatched_orAnswer {α : Type} {answer : PatchAnswer} (value : Option α)
    (h : ∀ path hash, answer ≠ .patched path hash) : NeverPatched (orAnswer answer value) := by
  intro path hash heq
  cases value with
  | none => exact h path hash (Except.error.inj heq)
  | some a => cases heq

lemma neverPatched_reject {answer : PatchAnswer} (check : Bool)
    (h : ∀ path hash, answer ≠ .patched path hash) : NeverPatched (reject check answer) := by
  intro path hash heq
  cases check with
  | false => cases heq
  | true => exact h path hash (Except.error.inj heq)

lemma neverPatched_editText : NeverPatched (editText source old new replaceAll) := by
  intro path hash h
  rw [editText] at h
  split at h
  · split at h <;> cases h
  · split at h <;> cases h

lemma neverPatched_preparePatch : NeverPatched (preparePatch sha256 io call disk) := by
  refine (neverPatched_orAnswer _ (fun _ _ h => by cases h)).bind fun ⟨expected, old, new⟩ => ?_
  refine (neverPatched_reject _ (fun _ _ h => by cases h)).bind fun _ => ?_
  refine (neverPatched_orAnswer _ (fun _ _ h => by cases h)).bind fun content => ?_
  refine (neverPatched_orAnswer _ (fun _ _ h => by cases h)).bind fun before => ?_
  refine (neverPatched_reject _ (fun _ _ h => by cases h)).bind fun _ => ?_
  refine neverPatched_editText.bind fun text => ?_
  refine (neverPatched_reject _ (fun _ _ h => by cases h)).bind fun _ => ?_
  refine (neverPatched_orAnswer _ (fun _ _ h => by cases h)).bind fun latest => ?_
  refine (neverPatched_reject _ (fun _ _ h => by cases h)).bind fun _ => ?_
  intro path hash h
  cases h

/-- A call that does not reach the file leaves it as it was, and one that does says so when its
temporary file is cleaned up. -/
lemma applyPatch_cases : (∃ after, ReachesFile sha256 io call disk ∧
      preparePatch sha256 io call disk = .ok after ∧ applyPatch sha256 io call disk =
        (if io.cleans = true then .patched call.path (sha256 after) else .notCommitted,
          ⟨.regular after, none⟩)) ∨
    ¬ReachesFile sha256 io call disk ∧ ∃ answer left,
      applyPatch sha256 io call disk = (answer, ⟨disk.target, left⟩) ∧
        ∀ path hash, answer ≠ .patched path hash := by
  cases hprepared : preparePatch sha256 io call disk with
  | error answer =>
    right
    refine ⟨?_, answer, disk.temporary, ?_, ?_⟩
    · rintro ⟨⟨after, hafter⟩, -⟩
      rw [hprepared] at hafter
      cases hafter
    · rw [applyPatch, hprepared]
    · intro path hash hanswer
      subst hanswer
      exact neverPatched_preparePatch path hash hprepared
  | ok after =>
    cases hwrite : io.write with
    | failed left =>
      right
      refine ⟨?_, .notCommitted, left, ?_, fun _ _ h => by cases h⟩
      · rintro ⟨-, hcomplete, -⟩
        rw [hwrite] at hcomplete
        cases hcomplete
      · rw [applyPatch, hprepared, hwrite]
    | complete =>
      cases hmoves : io.moves with
      | false =>
        right
        refine ⟨?_, .notCommitted, if io.cleans then none else some after, ?_,
          fun _ _ h => by cases h⟩
        · rintro ⟨-, -, hmoved⟩
          rw [hmoves] at hmoved
          cases hmoved
        · rw [applyPatch, hprepared, hwrite, hmoves]
          rfl
      | true =>
        left
        refine ⟨after, ⟨⟨after, hprepared⟩, hwrite, hmoves⟩, rfl, ?_⟩
        rw [applyPatch, hprepared, hwrite, hmoves]
        cases io.cleans <;> rfl

lemma after_ne_before {before : List UInt8} {text : List Char} (hold : old ≠ [])
    (hne : old ≠ new) (hedit : editText (decodeUtf8 before) old new replaceAll = .ok text) :
    utf8 text ≠ before := by
  intro heq
  subst heq
  rw [decodeUtf8_utf8] at hedit
  exact (edited_of_editText hold hedit).ne hne rfl

/-- **A patch edits exactly the text that it names, and reports so, on every input that is safe,
and on no other one that puts a text in the place of the old one.** -/
theorem patchesExactly_iff (sha256 : List UInt8 → String) (io : PatchIo) (call : PatchCall)
    (disk : PatchDisk) :
    (PatchSafe sha256 io call disk → PatchesExactly sha256 io call disk) ∧
      (call.newString ≠ some [] →
        (PatchesExactly sha256 io call disk ↔ PatchSafe sha256 io call disk)) := by
  rcases @applyPatch_cases sha256 io call disk with
    ⟨bytes, hreaches, hprepared, happly⟩ | ⟨hreaches, answer, left, happly, hanswer⟩
  · obtain ⟨old, new, before, text, hcallOld, hcallNew, hold, hne, htarget, hedit, rfl⟩ :=
      preparePatch_eq_ok hprepared
    have hsafe : PatchSafe sha256 io call disk → PatchesExactly sha256 io call disk := by
      intro hsafe
      obtain ⟨hcleans, hfile⟩ := hsafe hreaches
      obtain ⟨⟨source, rfl⟩, hoverlap⟩ := hfile before old htarget hcallOld
      rw [decodeUtf8_utf8] at hedit hoverlap
      rw [PatchesExactly, happly, if_pos hcleans]
      exact ⟨rfl, old, new, _, _, hcallOld, hcallNew, htarget, rfl, rfl,
        (editsExactly_iff hold hedit).mpr hoverlap⟩
    refine ⟨hsafe, fun hnew => ⟨?_, hsafe⟩⟩
    intro hexact _
    rw [PatchesExactly, happly] at hexact
    by_cases hcleans : io.cleans = true
    · rw [if_pos hcleans] at hexact
      obtain ⟨-, old', new', before', bytes', ho, hn, hb, hbytes, -, hedits⟩ := hexact
      obtain rfl : old' = old := Option.some_inj.mp (ho.symm.trans hcallOld)
      obtain rfl : new' = new := Option.some_inj.mp (hn.symm.trans hcallNew)
      obtain rfl : before' = before := TargetNode.regular.inj (hb.symm.trans htarget)
      obtain rfl : utf8 text = bytes' := TargetNode.regular.inj hbytes
      have hnew' : new' ≠ [] := by
        rintro rfl
        exact hnew hcallNew
      -- the new file is a text, so the old one was
      obtain ⟨source, rfl⟩ := isUtf8_of_edited hnew' ⟨text, rfl⟩ hedits.edited
      rw [decodeUtf8_utf8] at hedit
      have hoverlap := (editsExactly_iff hold hedit).mp hedits
      refine ⟨hcleans, ?_⟩
      intro before'' old'' hb' ho'
      obtain rfl : utf8 source = before'' := TargetNode.regular.inj (htarget.symm.trans hb')
      obtain rfl : old' = old'' := Option.some_inj.mp (hcallOld.symm.trans ho')
      rw [decodeUtf8_utf8]
      exact ⟨⟨source, rfl⟩, hoverlap⟩
    · -- the file is changed and the answer does not say so
      rw [if_neg hcleans] at hexact
      rw [htarget] at hexact
      exact absurd (TargetNode.regular.inj hexact) (after_ne_before hold hne hedit)
  · have hexact : PatchesExactly sha256 io call disk := by
      rw [PatchesExactly, happly]
      cases answer with
      | patched path hash => exact absurd rfl (hanswer path hash)
      | _ => rfl
    have hsafe : PatchSafe sha256 io call disk := fun h => absurd h hreaches
    exact ⟨fun _ => hexact, fun _ => ⟨fun _ => hsafe, fun _ => hexact⟩⟩

end Result

/-! ## Two files that are damaged -/

/-- The digits of a number, the last one first. -/
def sampleDigits : ℕ → ℕ → List Char
  | 0, _ => []
  | count + 1, n => Nat.digitChar (n % 16) :: sampleDigits count (n / 16)

/-- A digest of 64 hexadecimal digits that tells all files of at most 31 bytes apart. -/
def sampleDigest (bytes : List UInt8) : String :=
  String.ofList (sampleDigits 64 (bytes.foldl (fun n b => 256 * n + b.toNat) 1))

/-- A file system on which every step goes through. -/
def sampleIo : PatchIo where
  resolves := true
  firstRead := ⟨true, fun content => [content], fun _ => List.append_nil _⟩
  secondRead := ⟨true, fun content => [content], fun _ => List.append_nil _⟩
  write := .complete
  moves := true
  cleans := true

/-- The call that replaces one text by another in a file. -/
def sampleCall (before : List UInt8) (old new : String) : PatchCall where
  path := "notes.txt"
  expectedSha256 := some (sampleDigest before)
  oldString := some old.toList
  newString := some new.toList

/-- The file `ab`. -/
def plainFile : List UInt8 := [0x61, 0x62]

theorem patchesExactly_plainFile :
    PatchesExactly sampleDigest sampleIo (sampleCall plainFile "a" "c") ⟨.regular plainFile, none⟩ :=
  (patchesExactly_iff sampleDigest sampleIo (sampleCall plainFile "a" "c")
    ⟨.regular plainFile, none⟩).1 fun _ => ⟨rfl, fun before old hbefore hold => by
      obtain rfl : plainFile = before := TargetNode.regular.inj hbefore
      obtain rfl : "a".toList = old := Option.some_inj.mp hold
      refine ⟨⟨['a', 'b'], by decide⟩, Or.inr fun first _ i hpos hi => ?_⟩
      have hlength : "a".toList.length = 1 := by decide
      omega⟩

/-- A file with a byte that is no UTF-8, before an `a`. -/
def foreignFile : List UInt8 := [0xFF, 0x61]

/-- A file in which `aba` occurs twice, one occurrence overlapping the other. -/
def overlappingFile : List UInt8 := [0x61, 0x62, 0x61, 0x62, 0x61]

lemma not_isUtf8_foreignFile : ¬IsUtf8 foreignFile := by
  intro h
  exact absurd (utf8_decodeUtf8 h) (by decide +kernel)

lemma applyPatch_foreignFile :
    applyPatch sampleDigest sampleIo (sampleCall foreignFile "a" "b") ⟨.regular foreignFile, none⟩ =
      (.patched "notes.txt" (sampleDigest [0xEF, 0xBF, 0xBD, 0x62]),
        ⟨.regular [0xEF, 0xBF, 0xBD, 0x62], none⟩) := by
  decide +kernel

lemma applyPatch_overlappingFile :
    applyPatch sampleDigest sampleIo (sampleCall overlappingFile "aba" "c")
      ⟨.regular overlappingFile, none⟩ =
      (.patched "notes.txt" (sampleDigest [0x63, 0x62, 0x61]), ⟨.regular [0x63, 0x62, 0x61], none⟩) := by
  decide +kernel

/-- In one file the edit of an `a` also rewrites the foreign byte before it; in the other the first
of two occurrences is replaced as if it were the only one. -/
theorem patch_damages :
    ¬PatchesExactly sampleDigest sampleIo (sampleCall foreignFile "a" "b")
        ⟨.regular foreignFile, none⟩ ∧
      ¬PatchesExactly sampleDigest sampleIo (sampleCall overlappingFile "aba" "c")
        ⟨.regular overlappingFile, none⟩ := by
  constructor
  · intro h
    rw [PatchesExactly, applyPatch_foreignFile] at h
    obtain ⟨-, old, new, before, bytes, -, hnew, hbefore, hbytes, -, hedits⟩ := h
    obtain rfl : "b".toList = new := Option.some_inj.mp hnew
    obtain rfl : foreignFile = before := TargetNode.regular.inj hbefore
    obtain rfl : [0xEF, 0xBF, 0xBD, 0x62] = bytes := TargetNode.regular.inj hbytes
    have hafter : IsUtf8 [0xEF, 0xBF, 0xBD, 0x62] := ⟨['\uFFFD', 'b'], by decide⟩
    exact not_isUtf8_foreignFile (isUtf8_of_edited (by decide) hafter hedits.edited)
  · intro h
    rw [PatchesExactly, applyPatch_overlappingFile] at h
    obtain ⟨-, old, new, before, bytes, hold, -, hbefore, -, -, hedits⟩ := h
    obtain rfl : "aba".toList = old := Option.some_inj.mp hold
    obtain rfl : overlappingFile = before := TargetNode.regular.inj hbefore
    obtain ⟨i, -, hunique⟩ := hedits.unique (by decide)
    have hfirst := hunique 0 (by decide +kernel)
    have hsecond := hunique 2 (by decide +kernel)
    omega

/-- A file in which U+FFFD stands twice inside the bytes of a third one. -/
def nestedFile : List UInt8 := [0xEF, 0xEF, 0xBF, 0xBD, 0xEF, 0xBF, 0xBD, 0xBF, 0xBD]

/-- The call that deletes every two U+FFFD from it. -/
def deletingCall : PatchCall :=
  { sampleCall nestedFile "\uFFFD\uFFFD" "" with replaceAll := some true }

end JaDesktop.Sidecar
