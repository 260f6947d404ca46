import JaDesktop.GitRead.Parse
import JaDesktop.Lib.Separated

/-!
# The log of git, read back

Git ends every commit of the log with a line feed, also between two commits.  The parser drops only
the last one, so that every later commit keeps a line feed in front of its object id
(`parseLog_printed`).
-/

namespace JaDesktop.GitRead

open JaDesktop.Rust

variable {commit : GitLogEntry} {commits : List GitLogEntry}

/-! ## What git prints -/

/-- A text without the terminator of a field. -/
def NulFree (text : String) : Prop := (0 : UInt8) ∉ asBytes text

instance : DecidablePred NulFree := fun _ => inferInstanceAs (Decidable (_ ∉ _))

/-- A hexadecimal object id. -/
def isHexId (text : String) : Bool :=
  !text.isEmpty && text.toList.all fun c =>
    ('0' ≤ c && c ≤ '9') || ('a' ≤ c && c ≤ 'f') || ('A' ≤ c && c ≤ 'F')

/-- A commit as git has it: hexadecimal object ids and texts without NUL. -/
structure Printable (commit : GitLogEntry) : Prop where
  objectId : isHexId commit.objectId = true
  parents : ∀ parent ∈ commit.parents, isHexId parent = true
  author : NulFree commit.author
  email : NulFree commit.email
  authoredAt : NulFree commit.authoredAt
  subject : NulFree commit.subject

/-- The six fields of a commit. -/
def logFields (commit : GitLogEntry) : List String :=
  [commit.objectId, " ".intercalate commit.parents, commit.author, commit.email,
    commit.authoredAt, commit.subject]

/-- Texts that each end with NUL. -/
def terminated (texts : List String) : List UInt8 := texts.flatMap fun text => asBytes text ++ [0]

/-- The output of git for some commits. -/
def printed (commits : List GitLogEntry) : List UInt8 :=
  commits.flatMap fun commit => terminated (logFields commit) ++ [0x0A]

/-! ## What the parser finds -/

/-- A commit behind the line feed of the one before it. -/
def afterLineFeed (commit : GitLogEntry) : GitLogEntry :=
  { commit with objectId := "\n" ++ commit.objectId }

/-- The commits with the line feeds between them. -/
def shifted : List GitLogEntry → List GitLogEntry
  | [] => []
  | commit :: commits => commit :: commits.map afterLineFeed

variable {text : String} {texts : List String}

lemma isHexId_chars (h : isHexId text = true) :
    text.toList ≠ [] ∧ ∀ c ∈ text.toList, 0x30 ≤ c.toNat ∧ c.toNat < 0x80 := by
  simp only [isHexId, Bool.and_eq_true, Bool.not_eq_true', List.all_eq_true, Bool.or_eq_true,
    decide_eq_true_eq] at h
  constructor
  · intro hnil
    rw [String.toList_eq_nil_iff] at hnil
    simp [hnil] at h
  · intro c hc
    have hclass := h.2 c hc
    simp only [Char.le_def, UInt32.le_iff_toNat_le] at hclass
    have hval : c.val.toNat = c.toNat := rfl
    simp only [hval, Char.reduceVal, UInt32.reduceToNat] at hclass
    omega

lemma nulFree_of_chars (h : ∀ c ∈ text.toList, c.toNat ≠ 0) : NulFree text := by
  intro hmem
  rw [asBytes_eq_flatMap] at hmem
  obtain ⟨c, hc, hb⟩ := List.mem_flatMap.mp hmem
  exact h c hc (toNat_of_mem_utf8EncodeChar hb (by decide))

lemma nulFree_of_isHexId (h : isHexId text = true) : NulFree text := by
  refine nulFree_of_chars fun c hc => ?_
  have := ((isHexId_chars h).2 c hc).1
  omega

lemma nulFree_parents (h : ∀ parent ∈ commit.parents, isHexId parent = true) :
    NulFree (" ".intercalate commit.parents) := by
  refine nulFree_of_chars fun c hc => ?_
  rw [String.toList_intercalate] at hc
  rcases mem_intercalate hc with hc | ⟨text, htext, hc⟩
  · obtain rfl : c = ' ' := by simpa using hc
    decide
  · obtain ⟨parent, hparent, rfl⟩ := List.mem_map.mp htext
    have := ((isHexId_chars (h parent hparent)).2 c hc).1
    omega

lemma isWhitespace_hex {c : Char} (h : 0x30 ≤ c.toNat ∧ c.toNat < 0x80) :
    isWhitespace c = false := by
  simp only [isWhitespace, Bool.or_eq_false_iff, Bool.and_eq_false_iff, beq_eq_false_iff_ne,
    decide_eq_false_iff_not]
  omega

lemma splitWhitespace_parents (h : ∀ parent ∈ commit.parents, isHexId parent = true) :
    splitWhitespace (" ".intercalate commit.parents) = commit.parents := by
  cases hparents : commit.parents with
  | nil => rfl
  | cons first rest =>
    have hspace : " ".toList = [' '] := by decide
    have hsplit : (" ".intercalate (first :: rest)).toList.splitOnP isWhitespace =
        (first :: rest).map String.toList := by
      rw [String.toList_intercalate, hspace]
      refine splitOnP_intercalate (by decide) (by simp) fun field hfield c hc => ?_
      obtain ⟨parent, hparent, rfl⟩ := List.mem_map.mp hfield
      exact isWhitespace_hex ((isHexId_chars (h parent (hparents ▸ hparent))).2 c hc)
    have hfilter : ((first :: rest).map String.toList).filter (· ≠ []) =
        (first :: rest).map String.toList := by
      refine List.filter_eq_self.mpr fun field hfield => ?_
      obtain ⟨parent, hparent, rfl⟩ := List.mem_map.mp hfield
      exact decide_eq_true (isHexId_chars (h parent (hparents ▸ hparent))).1
    rw [splitWhitespace, hsplit, hfilter, List.map_map]
    simp [Function.comp_def]

lemma nulFree_logFields (h : Printable commit) : ∀ text ∈ logFields commit, NulFree text := by
  simp only [logFields, List.forall_mem_cons]
  exact ⟨nulFree_of_isHexId h.objectId, nulFree_parents h.parents, h.author, h.email,
    h.authoredAt, h.subject, by simp⟩

lemma terminated_append (texts more : List String) :
    terminated (texts ++ more) = terminated texts ++ terminated more := List.flatMap_append

lemma lineFeed_terminated (commit : GitLogEntry) :
    0x0A :: terminated (logFields commit) = terminated (logFields (afterLineFeed commit)) := by
  have hfeed : asBytes "\n" = [0x0A] := by decide
  simp [terminated, logFields, afterLineFeed, asBytes_append, hfeed]

lemma printed_cons (commit : GitLogEntry) (commits : List GitLogEntry) :
    printed (commit :: commits) =
      terminated ((shifted (commit :: commits)).flatMap logFields) ++ [0x0A] := by
  have hrest : ∀ commits : List GitLogEntry, 0x0A :: printed commits =
      terminated ((commits.map afterLineFeed).flatMap logFields) ++ [0x0A] := by
    intro commits
    induction commits with
    | nil => rfl
    | cons next commits ih =>
      rw [List.map_cons, List.flatMap_cons, terminated_append, ← lineFeed_terminated,
        List.append_assoc, ← ih]
      simp [printed]
  rw [shifted, List.flatMap_cons, terminated_append, List.append_assoc, ← hrest]
  simp [printed]

lemma textField_asBytes (h : NulFree text) : textField (asBytes text) = .ok text := by
  have hcontains : (asBytes text).contains 0 = false := by
    rw [List.contains_eq_mem, decide_eq_false_iff_not]
    exact h
  rw [textField, hcontains, fromUtf8_asBytes]
  rfl

lemma mapM_textField (h : ∀ text ∈ texts, NulFree text) :
    (texts.map asBytes).mapM textField = .ok texts := by
  induction texts with
  | nil => rfl
  | cons text texts ih =>
    rw [List.map_cons, List.mapM_cons, textField_asBytes (h text List.mem_cons_self),
      ih fun t ht => h t (List.mem_cons_of_mem _ ht)]
    rfl

lemma fields_terminated (h : ∀ text ∈ texts, NulFree text) :
    ((terminated texts).splitOn 0).mapM textField = .ok (texts ++ [""]) := by
  have hsplit : (terminated texts).splitOn 0 = (texts ++ [""]).map asBytes := by
    have hmap : terminated texts = (texts.map asBytes).flatMap (· ++ [0]) ++ [] := by
      rw [List.flatMap_map, List.append_nil, terminated]
    rw [hmap, splitOn_terminated (List.forall_mem_map.mpr h) List.not_mem_nil, List.map_append]
    rfl
  rw [hsplit]
  refine mapM_textField fun text htext => ?_
  rcases List.mem_append.mp htext with htext | htext
  · exact h text htext
  · obtain rfl : text = "" := by simpa using htext
    decide

lemma stripSuffix_append (last : UInt8) (bytes : List UInt8) :
    stripSuffix last (bytes ++ [last]) = bytes := by
  simp [stripSuffix]

lemma stripSuffix_terminated :
    stripSuffix 0x0D (terminated texts) = terminated texts := by
  rcases List.eq_nil_or_concat texts with rfl | ⟨init, last, rfl⟩
  · rfl
  · have hlast : (terminated (init.concat last)).getLast? = some 0 := by
      simp [terminated]
    rw [stripSuffix, hlast, if_neg (by decide)]

lemma length_flatMap_logFields (commits : List GitLogEntry) :
    (commits.flatMap logFields).length = 6 * commits.length := by
  induction commits with
  | nil => rfl
  | cons commit commits ih =>
    rw [List.flatMap_cons, List.length_append, ih, List.length_cons]
    simp only [logFields, List.length_cons, List.length_nil]
    omega

lemma logEntries_flatMap
    (h : ∀ commit ∈ commits, splitWhitespace (" ".intercalate commit.parents) = commit.parents) :
    logEntries (commits.flatMap logFields) = commits := by
  induction commits with
  | nil => rfl
  | cons commit commits ih =>
    rw [List.flatMap_cons, logFields]
    simp only [List.cons_append, List.nil_append, logEntries]
    rw [h commit List.mem_cons_self, ih fun c hc => h c (List.mem_cons_of_mem _ hc)]

lemma forall_mem_shifted {P : GitLogEntry → Prop} (h : ∀ commit ∈ commits, P commit)
    (hshift : ∀ commit, P commit → P (afterLineFeed commit)) :
    ∀ commit ∈ shifted commits, P commit := by
  cases commits with
  | nil => exact h
  | cons first rest =>
    rw [shifted, List.forall_mem_cons, List.forall_mem_map]
    exact ⟨h first List.mem_cons_self, fun c hc => hshift c (h c (List.mem_cons_of_mem _ hc))⟩

/-- The parser finds every commit, and a line feed in front of each but the first. -/
theorem parseLog_printed (h : ∀ commit ∈ commits, Printable commit) :
    parseLog (printed commits) = .ok (shifted commits) := by
  cases commits with
  | nil => rfl
  | cons first rest =>
    set found := shifted (first :: rest) with hfound
    have hfree : ∀ text ∈ found.flatMap logFields, NulFree text := by
      intro text htext
      obtain ⟨commit, hcommit, htext⟩ := List.mem_flatMap.mp htext
      refine forall_mem_shifted (P := fun c => ∀ text ∈ logFields c, NulFree text)
        (fun c hc => nulFree_logFields (h c hc)) ?_ commit hcommit text htext
      intro c hc
      simp only [logFields, List.forall_mem_cons] at hc ⊢
      refine ⟨?_, hc.2⟩
      rw [NulFree, afterLineFeed, asBytes_append, List.mem_append, not_or]
      exact ⟨by decide, hc.1⟩
    have hparents : ∀ commit ∈ found,
        splitWhitespace (" ".intercalate commit.parents) = commit.parents :=
      forall_mem_shifted (fun c hc => splitWhitespace_parents (h c hc).parents) fun _ hc => hc
    have hempty : "".isEmpty = true := rfl
    rw [parseLog, printed_cons, stripSuffix_append, stripSuffix_terminated,
      fields_terminated hfree, ok_bind]
    simp only [List.getLast?_append, List.getLast?_singleton, Option.some_or, Option.any_some,
      hempty, if_true, List.dropLast_concat, length_flatMap_logFields,
      Nat.mul_mod_right, ne_eq, not_true_eq_false, if_false, logEntries_flatMap hparents]

/-- **Log parsing undoes git's output exactly up to one commit.**  From the second commit on, the
object id has the line feed of the commit before it. -/
theorem parseLog_printed_iff (commits : List GitLogEntry)
    (h : ∀ commit ∈ commits, Printable commit) :
    parseLog (printed commits) = .ok commits ↔ commits.length ≤ 1 := by
  rw [parseLog_printed h]
  rcases commits with _ | ⟨first, _ | ⟨second, rest⟩⟩
  · simp [shifted]
  · simp [shifted]
  · have hlong : ¬(first :: second :: rest).length ≤ 1 := by simp
    refine iff_of_false (fun heq => ?_) hlong
    simp only [shifted, List.map_cons, Except.ok.injEq, List.cons.injEq, true_and] at heq
    have hid : "\n" ++ second.objectId = second.objectId := congrArg GitLogEntry.objectId heq.1
    have hlength := congrArg (fun text => text.toList.length) hid
    simp at hlength

/-- A root commit. -/
def rootCommit : GitLogEntry := ⟨"a1", [], "A", "a@b", "2024-01-01T00:00:00Z", "first"⟩

/-- Its successor. -/
def secondCommit : GitLogEntry := ⟨"b2", ["a1"], "A", "a@b", "2024-01-02T00:00:00Z", "second"⟩

lemma printable_rootCommit : Printable rootCommit := by
  constructor <;> decide

theorem parseLog_printed_rootCommit : parseLog (printed [rootCommit]) = .ok [rootCommit] :=
  (parseLog_printed_iff [rootCommit] (by simpa using printable_rootCommit)).mpr (by decide)

/-- The second of two commits is not read back. -/
theorem parseLog_two_commits :
    (∀ commit ∈ [secondCommit, rootCommit], Printable commit) ∧
      parseLog (printed [secondCommit, rootCommit]) =
        .ok [secondCommit, { rootCommit with objectId := "\na1" }] ∧
      parseLog (printed [secondCommit, rootCommit]) ≠ .ok [secondCommit, rootCommit] := by
  have hprintable : ∀ commit ∈ [secondCommit, rootCommit], Printable commit := by
    simp only [List.forall_mem_cons, List.not_mem_nil, false_implies, implies_true, and_true]
    exact ⟨by constructor <;> decide, printable_rootCommit⟩
  have hparsed : parseLog (printed [secondCommit, rootCommit]) =
      .ok [secondCommit, { rootCommit with objectId := "\na1" }] := parseLog_printed hprintable
  refine ⟨hprintable, hparsed, ?_⟩
  rw [hparsed]
  decide

end JaDesktop.GitRead
