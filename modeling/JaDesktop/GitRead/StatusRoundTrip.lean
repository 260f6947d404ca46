import JaDesktop.GitRead.LogRoundTrip

/-!
# The status of git, read back

Entries are rendered in the `-z` form of porcelain v2: a record that ends with NUL for each, and a
second record with the original path for a rename.  The parser gives back the entries.  Where the
output ends between the two records of a rename, it is refused before the NUL but accepted behind
it, since the empty piece behind the last NUL is taken for the original path.
-/

namespace JaDesktop.GitRead

/-! ## Entries and their records -/

/-- What porcelain v2 says of an entry, with the fields that the parser drops. -/
inductive Porcelain
  /-- A header line, with its number sign. -/
  | header (text : String)
  | changed (index worktree : Char) (middle : List String) (path : String)
  | renamed (index worktree : Char) (middle : List String) (path originalPath : String)
  | unmerged (index worktree : Char) (middle : List String) (path : String)
  | untracked (path : String)
  | ignored (path : String)
deriving DecidableEq

/-- A field between two spaces. -/
structure Field (text : String) : Prop where
  nulFree : NulFree text
  noSpace : (0x20 : UInt8) ∉ asBytes text

/-- A letter of a status. -/
def IsLetter (c : Char) : Prop := 0x20 < c.toNat ∧ c.toNat < 0x80

/-- A path: not empty, and without NUL. -/
structure Path (text : String) : Prop where
  nulFree : NulFree text
  nonempty : text ≠ ""

namespace Porcelain

/-- The entries that git prints. -/
def Valid : Porcelain → Prop
  | header text => Path text ∧ (asBytes text).head? = some 0x23
  | changed index worktree middle path =>
    IsLetter index ∧ IsLetter worktree ∧ middle.length = 6 ∧ (∀ text ∈ middle, Field text) ∧ Path path
  | renamed index worktree middle path originalPath =>
    IsLetter index ∧ IsLetter worktree ∧ middle.length = 7 ∧ (∀ text ∈ middle, Field text) ∧
      Path path ∧ Path originalPath
  | unmerged index worktree middle path =>
    IsLetter index ∧ IsLetter worktree ∧ middle.length = 8 ∧ (∀ text ∈ middle, Field text) ∧ Path path
  | untracked path => Path path
  | ignored path => Path path

/-- What the parser should report. -/
def entry : Porcelain → GitStatusEntry
  | header text => ⟨.head, none, none, text, none⟩
  | changed index worktree _ path => ⟨.changed, some index, some worktree, path, none⟩
  | renamed index worktree _ path originalPath =>
    ⟨.renamed, some index, some worktree, path, some originalPath⟩
  | unmerged index worktree _ path => ⟨.unmerged, some index, some worktree, path, none⟩
  | untracked path => ⟨.untracked, none, none, path, none⟩
  | ignored path => ⟨.ignored, none, none, path, none⟩

/-- The fields of a record in front of its path. -/
def statusFields (mark : String) (index worktree : Char) (middle : List String) : List String :=
  mark :: String.ofList [index, worktree] :: middle

/-- Fields that each end with a space, and then the path. -/
def spaced (fields : List String) (path : String) : List UInt8 :=
  fields.flatMap (fun field => asBytes field ++ [0x20]) ++ asBytes path

/-- The records of an entry, without their terminators. -/
def records : Porcelain → List (List UInt8)
  | header text => [asBytes text]
  | changed index worktree middle path => [spaced (statusFields "1" index worktree middle) path]
  | renamed index worktree middle path originalPath =>
    [spaced (statusFields "2" index worktree middle) path, asBytes originalPath]
  | unmerged index worktree middle path => [spaced (statusFields "u" index worktree middle) path]
  | untracked path => [spaced ["?"] path]
  | ignored path => [spaced ["!"] path]

end Porcelain

/-- The output of git for some entries. -/
def rendered (entries : List Porcelain) : List UInt8 :=
  (entries.flatMap Porcelain.records).flatMap (· ++ [0])

/-! ## Fields -/

section Fields

variable {fields middle : List String} {mark path : String} {index worktree : Char}

lemma splitn_cons {field rest : List UInt8} (n : ℕ) (h : (0x20 : UInt8) ∉ field) :
    splitn 0x20 (n + 2) (field ++ 0x20 :: rest) = field :: splitn 0x20 (n + 1) rest := by
  have hfield : ∀ b ∈ field, (b != 0x20) = true := by
    intro b hb
    simp only [bne_iff_ne]
    rintro rfl
    exact h hb
  have hdrop : (field ++ 0x20 :: rest).dropWhile (· != 0x20) = 0x20 :: rest := by
    rw [List.dropWhile_append_of_pos hfield]
    rfl
  have htake : (field ++ 0x20 :: rest).takeWhile (· != 0x20) = field := by
    rw [List.takeWhile_append_of_pos hfield]
    simp
  rw [splitn, hdrop, htake]

lemma splitn_spaced (h : ∀ field ∈ fields, (0x20 : UInt8) ∉ asBytes field) :
    splitn 0x20 (fields.length + 1) (Porcelain.spaced fields path) =
      (fields ++ [path]).map asBytes := by
  induction fields with
  | nil => simp [splitn, Porcelain.spaced]
  | cons field fields ih =>
    have hspaced : Porcelain.spaced (field :: fields) path =
        asBytes field ++ 0x20 :: Porcelain.spaced fields path := by simp [Porcelain.spaced]
    rw [hspaced, List.length_cons, splitn_cons _ (h field List.mem_cons_self),
      ih fun f hf => h f (List.mem_cons_of_mem _ hf)]
    rfl

lemma splitFields_spaced (h : ∀ field ∈ fields, Field field) (hpath : NulFree path)
    (hhead : fields.head?.all String.isEmpty = false) :
    splitFields (Porcelain.spaced fields path) (fields.length + 1) = .ok (fields ++ [path]) := by
  have htexts : ∀ text ∈ fields ++ [path], NulFree text := by
    intro text htext
    rcases List.mem_append.mp htext with htext | htext
    · exact (h text htext).nulFree
    · rwa [List.mem_singleton.mp htext]
  rw [splitFields, splitn_spaced fun f hf => (h f hf).noSpace, mapM_textField htexts, ok_bind]
  cases fields with
  | nil => simp at hhead
  | cons first rest =>
    rw [List.head?_cons, Option.all_some] at hhead
    simp [hhead]

lemma statusLetters_ofList (hindex : IsLetter index) (hworktree : IsLetter worktree) :
    statusLetters (String.ofList [index, worktree]) = .ok (index, worktree) := by
  have hascii : ∀ c ∈ (String.ofList [index, worktree]).toList, c.toNat < 0x80 := by
    simp only [String.toList_ofList, List.forall_mem_cons]
    exact ⟨hindex.2, hworktree.2, by simp⟩
  have hchar : ∀ c : Char, c.toNat < 0x80 → Char.ofNat (UInt8.ofNat c.toNat).toNat = c := by
    intro c hc
    simp [Nat.mod_eq_of_lt (show c.toNat < 256 by omega)]
  rw [statusLetters, asBytes_of_ascii hascii, String.toList_ofList]
  simp only [List.map_cons, List.map_nil, hchar index hindex.2, hchar worktree hworktree.2]

lemma field_letters (hindex : IsLetter index) (hworktree : IsLetter worktree) :
    Field (String.ofList [index, worktree]) := by
  have hascii : ∀ c ∈ (String.ofList [index, worktree]).toList, c.toNat < 0x80 := by
    simp only [String.toList_ofList, List.forall_mem_cons]
    exact ⟨hindex.2, hworktree.2, by simp⟩
  have hbyte : ∀ b ∈ asBytes (String.ofList [index, worktree]), 0x20 < b.toNat := by
    intro b hb
    rw [asBytes_of_ascii hascii, String.toList_ofList] at hb
    obtain ⟨c, hc, rfl⟩ := List.mem_map.mp hb
    have hletter : IsLetter c := by
      rcases List.mem_cons.mp hc with rfl | hc
      · exact hindex
      · rwa [List.mem_singleton.mp hc]
    have hlt := hletter.2
    rw [UInt8.toNat_ofNat', Nat.mod_eq_of_lt (by omega)]
    exact hletter.1
  exact ⟨fun h => absurd (hbyte _ h) (by decide), fun h => absurd (hbyte _ h) (by decide)⟩

lemma statusRecord_spaced (kind : GitStatusKind) (hmark : Field mark) (hne : mark.isEmpty = false)
    (hindex : IsLetter index) (hworktree : IsLetter worktree)
    (hmiddle : ∀ field ∈ middle, Field field) (hpath : NulFree path) :
    statusRecord kind (Porcelain.spaced (Porcelain.statusFields mark index worktree middle) path)
      (middle.length + 3) = .ok ⟨kind, some index, some worktree, path, none⟩ := by
  have hfields : ∀ field ∈ Porcelain.statusFields mark index worktree middle, Field field := by
    simp only [Porcelain.statusFields, List.forall_mem_cons]
    exact ⟨hmark, field_letters hindex hworktree, hmiddle⟩
  have hsplit := splitFields_spaced hfields hpath (by simp [Porcelain.statusFields, hne])
  rw [show (Porcelain.statusFields mark index worktree middle).length + 1 = middle.length + 3 from
    rfl] at hsplit
  rw [statusRecord, hsplit, ok_bind]
  have hletters : (Porcelain.statusFields mark index worktree middle ++ [path]).getD 1 "" =
      String.ofList [index, worktree] := rfl
  have hlast : (Porcelain.statusFields mark index worktree middle ++ [path]).getD
      (middle.length + 3 - 1) "" = path := by
    simp [Porcelain.statusFields, List.getD_eq_getElem?_getD]
  rw [hletters, statusLetters_ofList hindex hworktree, ok_bind, hlast]

end Fields

/-! ## Records -/

section Records

variable {maxRecords count : ℕ} {records : List (List UInt8)} {result : List GitStatusEntry}
  {tail : List UInt8} {found : GitStatusEntry} {item : Porcelain} {entries : List Porcelain}

lemma chargeStatusRecords_eq (additional : ℕ) (h : count + additional ≤ maxRecords) :
    chargeStatusRecords count additional maxRecords = .ok (count + additional) :=
  if_neg (not_lt.mpr h)

lemma spaced_mark {mark : String} {b : UInt8} (hmark : asBytes mark = [b]) (fields : List String)
    (path : String) :
    Porcelain.spaced (mark :: fields) path = b :: 0x20 :: Porcelain.spaced fields path := by
  simp [Porcelain.spaced, hmark]

lemma statusRecords_item (h : item.Valid) (hcount : count + item.records.length ≤ maxRecords) :
    statusRecords maxRecords (item.records ++ records) count result =
      statusRecords maxRecords records (count + item.records.length) (result ++ [item.entry]) := by
  cases item with
  | header text =>
    obtain ⟨hpath, hhead⟩ := h
    have htext : textField (asBytes text) = .ok text := textField_asBytes hpath.nulFree
    obtain ⟨tail, htail⟩ : ∃ tail, asBytes text = 0x23 :: tail := by
      cases hbytes : asBytes text with
      | nil => simp [hbytes] at hhead
      | cons b tail =>
        obtain rfl : b = 0x23 := by simpa [hbytes] using hhead
        exact ⟨tail, rfl⟩
    simp only [Porcelain.records, htail] at hcount htext ⊢
    rw [List.singleton_append, statusRecords, chargeStatusRecords_eq 1 hcount, ok_bind, if_pos rfl,
      htext, ok_bind]
    rfl
  | changed index worktree middle path =>
    obtain ⟨hindex, hworktree, hlength, hmiddle, hpath⟩ := h
    have hrecord := statusRecord_spaced .changed (show Field "1" by constructor <;> decide)
      rfl hindex hworktree hmiddle hpath.nulFree
    rw [hlength] at hrecord
    simp only [Porcelain.records, Porcelain.statusFields,
      spaced_mark (show asBytes "1" = [0x31] from by decide)] at hcount hrecord ⊢
    rw [List.singleton_append, statusRecords, chargeStatusRecords_eq 1 hcount, ok_bind,
      if_neg (by decide), if_pos rfl, hrecord, ok_bind]
    rfl
  | renamed index worktree middle path originalPath =>
    obtain ⟨hindex, hworktree, hlength, hmiddle, hpath, horiginal⟩ := h
    have hrecord := statusRecord_spaced .renamed (show Field "2" by constructor <;> decide)
      rfl hindex hworktree hmiddle hpath.nulFree
    rw [hlength] at hrecord
    simp only [Porcelain.records, Porcelain.statusFields, List.length_cons, List.length_nil,
      spaced_mark (show asBytes "2" = [0x32] from by decide)] at hcount hrecord ⊢
    rw [List.cons_append, List.singleton_append, statusRecords,
      chargeStatusRecords_eq 1 (by omega), ok_bind, if_neg (by decide), if_neg (by decide), if_pos rfl,
      hrecord, ok_bind]
    simp only [chargeStatusRecords_eq 1 (show count + 1 + 1 ≤ maxRecords by omega), ok_bind,
      textField_asBytes horiginal.nulFree]
    rfl
  | unmerged index worktree middle path =>
    obtain ⟨hindex, hworktree, hlength, hmiddle, hpath⟩ := h
    have hrecord := statusRecord_spaced .unmerged (show Field "u" by constructor <;> decide)
      rfl hindex hworktree hmiddle hpath.nulFree
    rw [hlength] at hrecord
    simp only [Porcelain.records, Porcelain.statusFields,
      spaced_mark (show asBytes "u" = [0x75] from by decide)] at hcount hrecord ⊢
    rw [List.singleton_append, statusRecords, chargeStatusRecords_eq 1 hcount, ok_bind,
      if_neg (by decide), if_neg (by decide), if_neg (by decide), if_pos rfl, hrecord, ok_bind]
    rfl
  | untracked path =>
    have hpath : textField (asBytes path) = .ok path := textField_asBytes h.nulFree
    simp only [Porcelain.records, spaced_mark (show asBytes "?" = [0x3F] from by decide)] at hcount ⊢
    rw [List.singleton_append, statusRecords, chargeStatusRecords_eq 1 hcount, ok_bind,
      if_neg (by decide), if_neg (by decide), if_neg (by decide), if_neg (by decide),
      if_pos (by decide)]
    simp only [Porcelain.spaced, List.flatMap_nil, List.nil_append, hpath, ok_bind]
    rfl
  | ignored path =>
    have hpath : textField (asBytes path) = .ok path := textField_asBytes h.nulFree
    simp only [Porcelain.records, spaced_mark (show asBytes "!" = [0x21] from by decide)] at hcount ⊢
    rw [List.singleton_append, statusRecords, chargeStatusRecords_eq 1 hcount, ok_bind,
      if_neg (by decide), if_neg (by decide), if_neg (by decide), if_neg (by decide),
      if_pos (by decide)]
    simp only [Porcelain.spaced, List.flatMap_nil, List.nil_append, hpath, ok_bind]
    rfl

lemma statusRecords_items (h : ∀ item ∈ entries, item.Valid)
    (hcount : count + (entries.flatMap Porcelain.records).length ≤ maxRecords) :
    statusRecords maxRecords (entries.flatMap Porcelain.records ++ records) count result =
      statusRecords maxRecords records (count + (entries.flatMap Porcelain.records).length)
        (result ++ entries.map Porcelain.entry) := by
  induction entries generalizing count result with
  | nil => simp
  | cons item entries ih =>
    rw [List.flatMap_cons, List.length_append] at hcount
    rw [List.flatMap_cons, List.append_assoc, statusRecords_item (h item List.mem_cons_self)
      (by omega), ih (fun i hi => h i (List.mem_cons_of_mem _ hi)) (by omega), List.length_append,
      ← Nat.add_assoc]
    simp

end Records

/-! ## Outputs and their beginnings -/

namespace Porcelain

/-- Two records instead of one. -/
def IsRenamed : Porcelain → Prop
  | renamed .. => True
  | _ => False

lemma nulFree_spaced {fields : List String} {path : String} (h : ∀ field ∈ fields, Field field)
    (hpath : NulFree path) : (0 : UInt8) ∉ spaced fields path := by
  rw [spaced, List.mem_append, List.mem_flatMap]
  rintro (⟨field, hfield, hmem⟩ | hmem)
  · rcases List.mem_append.mp hmem with hmem | hmem
    · exact (h field hfield).nulFree hmem
    · exact absurd hmem (by decide)
  · exact hpath hmem

lemma field_statusFields {mark : String} {index worktree : Char} {middle : List String}
    (hmark : Field mark) (hindex : IsLetter index) (hworktree : IsLetter worktree)
    (hmiddle : ∀ field ∈ middle, Field field) :
    ∀ field ∈ statusFields mark index worktree middle, Field field := by
  simp only [statusFields, List.forall_mem_cons]
  exact ⟨hmark, field_letters hindex hworktree, hmiddle⟩

lemma nulFree_records {item : Porcelain} (h : item.Valid) :
    ∀ record ∈ item.records, (0 : UInt8) ∉ record := by
  have hone : Field "1" ∧ Field "2" ∧ Field "u" ∧ Field "?" ∧ Field "!" := by
    refine ⟨?_, ?_, ?_, ?_, ?_⟩ <;> constructor <;> decide
  obtain ⟨h1, h2, hu, hq, he⟩ := hone
  cases item with
  | header text =>
    rw [records, List.forall_mem_singleton]
    exact h.1.nulFree
  | changed index worktree middle path =>
    obtain ⟨hindex, hworktree, -, hmiddle, hpath⟩ := h
    rw [records, List.forall_mem_singleton]
    exact nulFree_spaced (field_statusFields h1 hindex hworktree hmiddle) hpath.nulFree
  | renamed index worktree middle path originalPath =>
    obtain ⟨hindex, hworktree, -, hmiddle, hpath, horiginal⟩ := h
    rw [records, List.forall_mem_cons, List.forall_mem_singleton]
    exact ⟨nulFree_spaced (field_statusFields h2 hindex hworktree hmiddle) hpath.nulFree,
      horiginal.nulFree⟩
  | unmerged index worktree middle path =>
    obtain ⟨hindex, hworktree, -, hmiddle, hpath⟩ := h
    rw [records, List.forall_mem_singleton]
    exact nulFree_spaced (field_statusFields hu hindex hworktree hmiddle) hpath.nulFree
  | untracked path =>
    rw [records, List.forall_mem_singleton]
    exact nulFree_spaced (by simpa using hq) h.nulFree
  | ignored path =>
    rw [records, List.forall_mem_singleton]
    exact nulFree_spaced (by simpa using he) h.nulFree

end Porcelain

variable {entries before rest : List Porcelain} {limit : ℕ}

lemma splitOn_rendered {last : List UInt8} (h : ∀ item ∈ entries, item.Valid)
    (hlast : (0 : UInt8) ∉ last) :
    (rendered entries ++ last).splitOn 0 = entries.flatMap Porcelain.records ++ [last] := by
  refine splitOn_terminated (fun record hrecord => ?_) hlast
  obtain ⟨item, hitem, hrecord⟩ := List.mem_flatMap.mp hrecord
  exact Porcelain.nulFree_records (h item hitem) record hrecord

/-- Rendered entries are read back, with any positive limit that is large enough. -/
theorem parseStatus_rendered (h : ∀ item ∈ entries, item.Valid)
    (hlimit : (entries.flatMap Porcelain.records).length ≤ limit) (hpos : 0 < limit) :
    parseStatus (rendered entries) limit = .ok (entries.map Porcelain.entry) := by
  have hsplit := splitOn_rendered h (List.not_mem_nil (a := (0 : UInt8)))
  rw [List.append_nil] at hsplit
  rw [parseStatus, if_neg (Nat.pos_iff_ne_zero.mp hpos), hsplit, statusRecords_items h (by omega)]
  rfl

/-- An output that ends between the two records of a rename, in front of the terminator of the
first record or behind it. -/
def cutRename (before : List Porcelain) (index worktree : Char) (middle : List String)
    (path : String) (behind : Bool) : List UInt8 :=
  rendered before ++ Porcelain.spaced (Porcelain.statusFields "2" index worktree middle) path ++
    if behind then [0] else []

/-- In front of the terminator the output is refused, behind it the original path is empty. -/
lemma parseStatus_cutRename {index worktree : Char} {middle : List String}
    {path originalPath : String} (behind : Bool)
    (h : ∀ item ∈ before ++ [.renamed index worktree middle path originalPath], item.Valid)
    (hlimit : (before.flatMap Porcelain.records).length + 2 ≤ limit) :
    parseStatus (cutRename before index worktree middle path behind) limit =
      if behind then .ok (before.map Porcelain.entry ++
        [⟨.renamed, some index, some worktree, path, some ""⟩])
      else .error .parse := by
  have hbefore : ∀ item ∈ before, item.Valid := fun i hi => h i (List.mem_append_left _ hi)
  obtain ⟨hindex, hworktree, hlength, hmiddle, hpath, -⟩ :=
    h (.renamed index worktree middle path originalPath) (by simp)
  have hmark : Field "2" := by constructor <;> decide
  have hfree := Porcelain.nulFree_spaced
    (Porcelain.field_statusFields hmark hindex hworktree hmiddle) hpath.nulFree
  have hrecord := statusRecord_spaced .renamed hmark rfl hindex hworktree hmiddle hpath.nulFree
  rw [hlength] at hrecord
  have hpositive : limit ≠ 0 := by omega
  cases behind with
  | false =>
    have hsplit : (cutRename before index worktree middle path false).splitOn 0 =
        before.flatMap Porcelain.records ++
          [Porcelain.spaced (Porcelain.statusFields "2" index worktree middle) path] := by
      rw [cutRename, if_neg Bool.false_ne_true, List.append_nil]
      exact splitOn_rendered hbefore hfree
    rw [parseStatus, if_neg hpositive, hsplit, statusRecords_items hbefore (by omega)]
    simp only [Porcelain.statusFields, spaced_mark (show asBytes "2" = [0x32] from by decide)]
      at hrecord ⊢
    rw [statusRecords, chargeStatusRecords_eq 1 (by omega), ok_bind, if_neg (by decide),
      if_neg (by decide), if_pos rfl, hrecord, ok_bind]
    rfl
  | true =>
    -- behind the terminator there is still an empty piece
    have hsplit : (cutRename before index worktree middle path true).splitOn 0 =
        before.flatMap Porcelain.records ++
          [Porcelain.spaced (Porcelain.statusFields "2" index worktree middle) path, []] := by
      have hrecords : ∀ record ∈ before.flatMap Porcelain.records ++
          [Porcelain.spaced (Porcelain.statusFields "2" index worktree middle) path],
          (0 : UInt8) ∉ record := by
        intro record hmem
        rcases List.mem_append.mp hmem with hmem | hmem
        · obtain ⟨item, hitem, hmem⟩ := List.mem_flatMap.mp hmem
          exact Porcelain.nulFree_records (hbefore item hitem) record hmem
        · rwa [List.mem_singleton.mp hmem]
      have hterminated := splitOn_terminated hrecords List.not_mem_nil
      simpa [cutRename, rendered] using hterminated
    rw [parseStatus, if_neg hpositive, hsplit, statusRecords_items hbefore (by omega)]
    simp only [Porcelain.statusFields, spaced_mark (show asBytes "2" = [0x32] from by decide)]
      at hrecord ⊢
    rw [statusRecords, chargeStatusRecords_eq 1 (by omega), ok_bind, if_neg (by decide),
      if_neg (by decide), if_pos rfl, hrecord, ok_bind]
    simp only [chargeStatusRecords_eq 1
      (show 0 + (before.flatMap Porcelain.records).length + 1 + 1 ≤ limit by omega), ok_bind]
    rfl

/-- The output is read back, and its beginnings that end in a rename are refused. -/
def ReadsBack (entries : List Porcelain) (limit : ℕ) (behind : Bool) : Prop :=
  parseStatus (rendered entries) limit = .ok (entries.map Porcelain.entry) ∧
    ∀ before index worktree middle path originalPath rest,
      entries = before ++ .renamed index worktree middle path originalPath :: rest →
      ∃ e, parseStatus (cutRename before index worktree middle path behind) limit = .error e

/-- **Status parsing is exact, and refuses an output that is cut in front of a terminator.**  With
a positive limit the entries are read back; an output that ends behind the terminator of the first
record of a rename is taken for complete. -/
theorem readsBack_iff (entries : List Porcelain) (limit : ℕ) (behind : Bool)
    (h : ∀ item ∈ entries, item.Valid)
    (hlimit : (entries.flatMap Porcelain.records).length ≤ limit) :
    ReadsBack entries limit behind ↔
      0 < limit ∧ (behind = false ∨ ∀ item ∈ entries, ¬item.IsRenamed) := by
  have hcut : ∀ before index worktree middle path originalPath rest,
      entries = before ++ .renamed index worktree middle path originalPath :: rest →
      parseStatus (cutRename before index worktree middle path behind) limit =
        if behind then .ok (before.map Porcelain.entry ++
          [⟨.renamed, some index, some worktree, path, some ""⟩])
        else .error .parse := by
    rintro before index worktree middle path originalPath rest rfl
    rw [List.flatMap_append, List.length_append, List.flatMap_cons, List.length_append,
      Porcelain.records] at hlimit
    simp only [List.length_cons, List.length_nil] at hlimit
    refine @parseStatus_cutRename before limit _ _ _ _ originalPath behind
      (fun item hitem => h item ?_) (by omega)
    rcases List.mem_append.mp hitem with hitem | hitem
    · exact List.mem_append_left _ hitem
    · rw [List.mem_singleton.mp hitem]
      simp
  constructor
  · rintro ⟨hexact, hrefused⟩
    constructor
    · by_contra hzero
      rw [parseStatus, if_pos (by omega)] at hexact
      cases hexact
    · cases behind with
      | false => exact Or.inl rfl
      | true =>
        refine Or.inr fun item hitem hrenamed => ?_
        obtain ⟨before, rest, hentries⟩ := List.append_of_mem hitem
        cases item with
        | renamed index worktree middle path originalPath =>
          obtain ⟨e, he⟩ := hrefused before index worktree middle path originalPath rest hentries
          rw [hcut before index worktree middle path originalPath rest hentries, if_pos rfl] at he
          cases he
        | header | changed | unmerged | untracked | ignored => exact hrenamed
  · rintro ⟨hpos, hcondition⟩
    refine ⟨parseStatus_rendered h hlimit hpos, ?_⟩
    intro before index worktree middle path originalPath rest hentries
    rcases hcondition with rfl | hnone
    · exact ⟨.parse, hcut before index worktree middle path originalPath rest hentries⟩
    · exact absurd trivial (hnone (.renamed index worktree middle path originalPath)
        (by simp [hentries]))

/-- One renamed file. -/
def renamedFile : Porcelain :=
  .renamed 'R' '.' ["N...", "100644", "100644", "100644", "a1", "a1", "R100"] "new" "old"

lemma valid_renamedFile : ∀ item ∈ [renamedFile], item.Valid := by
  rw [List.forall_mem_singleton, renamedFile]
  refine ⟨by constructor <;> decide, by constructor <;> decide, rfl, ?_, by constructor <;> decide,
    by constructor <;> decide⟩
  simp only [List.forall_mem_cons]
  refine ⟨?_, ?_, ?_, ?_, ?_, ?_, ?_, by simp⟩ <;> constructor <;> decide

theorem readsBack_renamedFile : ReadsBack [renamedFile] 2 false :=
  (readsBack_iff [renamedFile] 2 false valid_renamedFile (by decide)).mpr
    ⟨by decide, Or.inl rfl⟩

/-- The output of a rename without its second record is accepted, with an empty original path. -/
theorem cut_rename_accepted :
    ¬ReadsBack [renamedFile] 2 true ∧
      parseStatus (cutRename [] 'R' '.' ["N...", "100644", "100644", "100644", "a1", "a1", "R100"]
        "new" true) 2 = .ok [⟨.renamed, some 'R', some '.', "new", some ""⟩] := by
  have hcut := @parseStatus_cutRename [] 2 _ _ _ _ _ true valid_renamedFile (by decide)
  refine ⟨?_, hcut⟩
  rintro ⟨-, hrefused⟩
  obtain ⟨e, he⟩ := hrefused [] _ _ _ _ _ [] rfl
  rw [hcut] at he
  cases he

end JaDesktop.GitRead
