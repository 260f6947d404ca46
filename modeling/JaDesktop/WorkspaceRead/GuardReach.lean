import JaDesktop.Lib.Separated
import JaDesktop.WorkspaceRead.PathGuard

/-!
# What the guard of a path reaches

For the text of a path below the root that is there and meets no link, the guard accepts exactly the
texts that it can address, and reaches what is there.
-/

namespace JaDesktop.WorkspaceRead

open JaDesktop.Files

/-! ## Containment -/

lemma pathIsWithin_iff {root path : List Name} : pathIsWithin root path = true ↔ root <+: path := by
  rw [pathIsWithin]
  constructor
  · intro h
    split_ifs at h with hlength
    induction root generalizing path with
    | nil => exact List.nil_prefix
    | cons name root ih =>
      cases path with
      | nil => exact absurd (Nat.zero_lt_succ _) hlength
      | cons other path =>
        simp only [List.zip_cons_cons, List.all_cons, Bool.and_eq_true, beq_iff_eq] at h
        rw [h.1]
        refine List.cons_prefix_cons.mpr ⟨rfl, ih ?_ h.2⟩
        simpa using hlength
  · rintro ⟨rest, rfl⟩
    rw [if_neg (by simp)]
    induction root with
    | nil => rfl
    | cons name root ih =>
      simp only [List.cons_append, List.zip_cons_cons, List.all_cons, BEq.rfl, Bool.true_and]
      exact ih

/-! ## Texts -/

lemma asBytes_intercalate (parts : List String) :
    asBytes ("/".intercalate parts) = [0x2F].intercalate (parts.map asBytes) := by
  induction parts with
  | nil => rfl
  | cons part parts ih =>
    cases parts with
    | nil => rw [String.intercalate_singleton, List.map_singleton, List.intercalate_singleton]
    | cons next parts =>
      rw [String.intercalate_cons_cons, asBytes_append, asBytes_append, ih, List.map_cons,
        List.map_cons, List.map_cons, List.intercalate_cons_cons]
      rfl

lemma component_of_isName {name : Name} (h : IsName name) : component name = .name name := by
  rw [component, if_neg (by simp [h.ne_nil, h.ne_here]), if_neg h.ne_up]

section Texts

variable {text : String} {path : List Name}

lemma splitOn_text (htext : asBytes text = [0x2F].intercalate path)
    (hnames : ∀ name ∈ path, IsName name) (hne : path ≠ []) : (asBytes text).splitOn 0x2F = path := by
  rw [htext]
  exact List.splitOn_intercalate 0x2F (fun name hname => (hnames name hname).slash) hne

lemma names_text (htext : asBytes text = [0x2F].intercalate path)
    (hnames : ∀ name ∈ path, IsName name) : names text = path := by
  rcases eq_or_ne path [] with rfl | hne
  · rw [names, components, htext]
    rfl
  · rw [names, components, splitOn_text htext hnames hne, List.filterMap_map]
    conv_rhs => rw [← List.filterMap_some (l := path)]
    refine List.filterMap_congr fun name hname => ?_
    rw [Function.comp_apply, component_of_isName (hnames name hname)]

/-- The texts that the guard can address. -/
structure Addressable (text : String) : Prop where
  length : (asBytes text).length ≤ 4 * 1024
  colon : 0x3A ∉ asBytes text
  backslash : 0x5C ∉ asBytes text

lemma validateRelativePath_eq_ok_iff (htext : asBytes text = [0x2F].intercalate path)
    (hnames : ∀ name ∈ path, IsName name) :
    validateRelativePath text = .ok () ↔ Addressable text := by
  have hnul : (asBytes text).contains 0 = false := by
    rw [Bool.eq_false_iff, Ne, List.contains_iff_mem, htext]
    intro hmem
    rcases mem_intercalate hmem with hmem | ⟨name, hname, hmem⟩
    · simp at hmem
    · exact (hnames name hname).nul hmem
  have hrelative : isAbsolute (asBytes text) = false := by
    rw [isAbsolute, beq_eq_false_iff_ne, htext]
    cases path with
    | nil => exact fun h => by cases h
    | cons name path =>
      obtain ⟨b, name', hb⟩ := List.exists_cons_of_ne_nil (hnames name List.mem_cons_self).ne_nil
      have hslash : 0x2F ∉ name := (hnames name List.mem_cons_self).slash
      have hhead : ([0x2F].intercalate (name :: path)).head? = some b := by
        cases path with
        | nil => rw [List.intercalate_singleton, hb]; rfl
        | cons next path => rw [List.intercalate_cons_cons, hb]; rfl
      rw [hhead]
      rintro h
      obtain rfl : b = 0x2F := Option.some_inj.mp h
      exact hslash (hb ▸ List.mem_cons_self)
  have hplain : ((asBytes text).splitOn 0x2F).head? ≠ some [0x2E] ∧
      .up ∉ components (asBytes text) := by
    rcases eq_or_ne path [] with rfl | hne
    · rw [components, htext]
      decide
    · rw [components, splitOn_text htext hnames hne]
      constructor
      · intro h
        exact (hnames _ (List.mem_of_mem_head? h)).ne_here rfl
      · intro h
        obtain ⟨name, hname, hup⟩ := List.mem_map.mp h
        rw [component_of_isName (hnames name hname)] at hup
        cases hup
  have hno : (((asBytes text).splitOn 0x2F).head? == some [0x2E] ||
      (components (asBytes text)).contains .up) = false := by
    rw [Bool.or_eq_false_iff]
    exact ⟨beq_eq_false_iff_ne.mpr hplain.1, by simpa using hplain.2⟩
  have hall : validateRelativePath text = .ok () ↔
      (decide ((asBytes text).length > 4 * 1024) || (asBytes text).contains 0x3A ||
        (asBytes text).contains 0x5C) = false := by
    rw [validateRelativePath]
    simp only [hnul, hrelative, hno, Bool.false_or, Bool.false_eq_true, if_false]
    split_ifs with hbad
    · rw [hbad]
      exact iff_of_false (fun h => by cases h) (fun h => by cases h)
    · exact iff_of_true rfl (by simpa using hbad)
  rw [hall]
  simp only [Bool.or_eq_false_iff, decide_eq_false_iff_not, List.contains_eq_mem, not_lt]
  exact ⟨fun h => ⟨h.1.1, h.1.2, h.2⟩, fun h => ⟨⟨h.length, h.colon⟩, h.backslash⟩⟩

end Texts

/-! ## Plain paths -/

section Plain

variable {fs : FileSystem Name FileIdentity} {links : ℕ} {path : List Name} {found : Entry}

lemma check_of_true {condition : Bool} (error : WorkspaceError) (h : condition = true) :
    (check condition error).result = .ok () := by
  rw [h]
  rfl

/-- An entry that is there and no link. -/
def Plain (fs : FileSystem Name FileIdentity) (path : List Name) (found : Entry) : Prop :=
  fs.metadata path = .ok found ∧ isLink found = false

lemma Plain.isPlain (h : Plain fs path found) : fs.IsPlain path := by
  refine ⟨found, h.1, fun absolute target hkind => ?_⟩
  have hlink := h.2
  rw [isLink, hkind] at hlink
  cases hlink

lemma plain_of_isPlain (h : fs.IsPlain path) : ∃ found, Plain fs path found := by
  obtain ⟨found, hfound, hkind⟩ := h
  refine ⟨found, hfound, ?_⟩
  rw [isLink]
  split
  next absolute target h => exact absurd h (hkind absolute target)
  next => rfl

section

variable (h : Plain fs path found)
include h

lemma Plain.check (error : WorkspaceError) :
    (check (!isLink found) error).result = .ok () :=
  check_of_true error (by rw [h.2]; rfl)

lemma Plain.symlinkMetadata (operation : String) :
    (symlinkMetadata fs links path operation).result = .ok found :=
  Probe.mapError_of_ok ((FileSystem.symlinkMetadata_plain links h.isPlain).trans h.1)

lemma Plain.walk :
    (fs.walk links [] (path.map .name)).result = .ok path :=
  (FileSystem.walk_clear (P := fun _ => True) links (.inr h.isPlain) fun _ _ => trivial).1

lemma Plain.canonicalize (operation : String) :
    (canonicalize fs links path operation).result = .ok path :=
  Probe.mapError_of_ok h.walk

lemma Plain.physicalIdentity :
    (physicalIdentity fs links path).result = .ok found.identity := by
  rw [WorkspaceRead.physicalIdentity, Probe.bind_of_ok (Probe.mapError_of_ok h.walk),
    Probe.bind_of_ok (a := found) (Probe.mapError_of_ok h.1)]
  rfl

end

/-- The root of a handle is the directory that has been admitted. -/
def WorkspaceHandle.Admitted (handle : WorkspaceHandle) (fs : FileSystem Name FileIdentity) : Prop :=
  ∃ found, fs.metadata handle.root = .ok found ∧ found.kind = .directory ∧
    found.identity = handle.rootIdentity

variable {handle : WorkspaceHandle} {directory : Option Bool}

lemma verifyRootIdentity_of_admitted (h : handle.Admitted fs) :
    (verifyRootIdentity fs links handle).result = .ok () := by
  obtain ⟨found, hfound, hkind, hidentity⟩ := h
  have hplain : Plain fs handle.root found := by
    refine ⟨hfound, ?_⟩
    rw [isLink, hkind]
  have hdir : isDir found = true := by
    rw [isDir, hkind]
    rfl
  rw [verifyRootIdentity, Probe.bind_of_ok (hplain.symlinkMetadata "root"),
    Probe.bind_of_ok (hplain.check _), Probe.bind_of_ok (check_of_true _ hdir),
    Probe.bind_of_ok hplain.physicalIdentity, hidentity]
  exact check_of_true _ BEq.rfl

/-- What the guard has recorded of a component still holds. -/
def Recorded (fs : FileSystem Name FileIdentity) (component : List Name × FileIdentity) : Prop :=
  ∃ found, Plain fs component.1 found ∧ found.identity = component.2

lemma guardNames_plain (links : ℕ) {current : List Name} (h : fs.IsPlain (current ++ path)) :
    ∃ checked, (guardNames fs links current path).result = .ok (current ++ path, checked) ∧
      ∀ component ∈ checked, Recorded fs component := by
  induction path generalizing current with
  | nil =>
    rw [List.append_nil]
    exact ⟨[], rfl, by simp⟩
  | cons name path ih =>
    have hsplit : current ++ name :: path = current ++ [name] ++ path := by simp
    rw [hsplit] at h ⊢
    obtain ⟨checked, hchecked, hrecorded⟩ := ih h
    obtain ⟨found, hplain⟩ := plain_of_isPlain h.above
    refine ⟨(current ++ [name], found.identity) :: checked, ?_, ?_⟩
    · rw [guardNames, Probe.bind_of_ok (hplain.symlinkMetadata "stat"),
        Probe.bind_of_ok (hplain.check _), Probe.bind_of_ok hplain.physicalIdentity,
        Probe.bind_of_ok hchecked]
      rfl
    · intro component hcomponent
      rcases List.mem_cons.mp hcomponent with rfl | hcomponent
      · exact ⟨found, hplain, rfl⟩
      · exact hrecorded component hcomponent

lemma verifyComponents_of_recorded {checked : List (List Name × FileIdentity)}
    (h : ∀ component ∈ checked, Recorded fs component) :
    (verifyComponents fs links checked).result = .ok () := by
  induction checked with
  | nil => rfl
  | cons component checked ih =>
    obtain ⟨found, hplain, hidentity⟩ := h component List.mem_cons_self
    obtain ⟨path, expected⟩ := component
    rw [verifyComponents, Probe.bind_of_ok (hplain.symlinkMetadata "recheck"),
      Probe.bind_of_ok (hplain.check _), Probe.bind_of_ok hplain.physicalIdentity, hidentity,
      Probe.bind_of_ok (check_of_true _ BEq.rfl)]
    exact ih fun component hcomponent => h component (List.mem_cons_of_mem _ hcomponent)

/-- An entry is what the caller asks for, and a file has no second name. -/
structure Fits (found : Entry) (directory : Option Bool) : Prop where
  dir : directory = some true → found.kind = .directory
  file : directory = some false → found.kind = .file
  hardLinks : found.kind = .file → found.hardLinks ≤ 1

lemma fits_iff : Fits found directory ↔
    (checkDirectory found directory).result = .ok () ∧ (checkHardLinks found).result = .ok () := by
  constructor
  · rintro ⟨hdir, hfile, hlinks⟩
    constructor
    · rcases directory with _ | _ | _
      · rfl
      · exact check_of_true _ (beq_iff_eq.mpr (hfile rfl))
      · exact check_of_true _ (beq_iff_eq.mpr (hdir rfl))
    · refine check_of_true _ ?_
      rw [Bool.not_eq_true', Bool.and_eq_false_iff, isFile]
      by_cases hkind : found.kind = .file
      · exact .inr (decide_eq_false (Nat.not_lt.mpr (hlinks hkind)))
      · exact .inl (beq_eq_false_iff_ne.mpr hkind)
  · rintro ⟨hkind, hlinks⟩
    refine ⟨?_, ?_, fun hfile => ?_⟩
    · rintro rfl
      exact beq_iff_eq.mp (check_eq_ok hkind)
    · rintro rfl
      exact beq_iff_eq.mp (check_eq_ok hkind)
    · have hmany := check_eq_ok hlinks
      rw [isFile, hfile, BEq.rfl, Bool.true_and, Bool.not_eq_true', decide_eq_false_iff_not] at hmany
      exact Nat.le_of_not_lt hmany

lemma verifyResolved_plain {resolved : ResolvedPath} (hhandle : handle.Admitted fs)
    (hplain : Plain fs resolved.path found)
    (hwithin : pathIsWithin handle.root resolved.path = true)
    (hidentity : found.identity = resolved.finalIdentity)
    (hrecorded : ∀ component ∈ resolved.components, Recorded fs component)
    (hfits : Fits found directory) :
    (verifyResolved fs links handle resolved directory).result = .ok () := by
  -- a directory is no file, so both checks of the kind agree
  have hkind : directory.all (· == isDir found) = true := by
    rcases directory with _ | _ | _
    · rfl
    · rw [isDir, hfits.file rfl]
      rfl
    · rw [isDir, hfits.dir rfl]
      rfl
  rw [verifyResolved, Probe.bind_of_ok (verifyRootIdentity_of_admitted hhandle),
    Probe.bind_of_ok (verifyComponents_of_recorded hrecorded),
    Probe.bind_of_ok (hplain.canonicalize "recheck"),
    Probe.bind_of_ok (check_of_true _ (by rw [BEq.rfl, hwithin]; rfl)),
    Probe.bind_of_ok (hplain.symlinkMetadata "recheck"), Probe.bind_of_ok (hplain.check _),
    Probe.bind_of_ok hplain.physicalIdentity, hidentity,
    Probe.bind_of_ok (check_of_true _ BEq.rfl), Probe.bind_of_ok (check_of_true _ hkind),
    Probe.bind_of_ok (fits_iff.mp hfits).2]
  exact verifyRootIdentity_of_admitted hhandle

/-- **What the guard reaches.**  Given the text of a path below the root that is there and meets no
link, the guard accepts exactly when it can address the text and the entry fits, and then it has
reached this path. -/
theorem resolveGuard_plain {text : String} (hhandle : handle.Admitted fs)
    (hplain : Plain fs (handle.root ++ path) found) (hnames : ∀ name ∈ path, IsName name)
    (htext : asBytes text = [0x2F].intercalate path) :
    ((∃ resolved, (resolveGuard fs links handle text directory).result = .ok resolved) ↔
        Addressable text ∧ Fits found directory) ∧
      ∀ resolved, (resolveGuard fs links handle text directory).result = .ok resolved →
        resolved.path = handle.root ++ path ∧ resolved.finalIdentity = found.identity := by
  obtain ⟨checked, hchecked, hrecorded⟩ := guardNames_plain links hplain.isPlain
  have hwithin : pathIsWithin handle.root (handle.root ++ path) = true :=
    pathIsWithin_iff.mpr (List.prefix_append _ _)
  have hparts : ∀ resolved, (resolveGuard fs links handle text directory).result = .ok resolved →
      (Addressable text ∧ Fits found directory) ∧ resolved.path = handle.root ++ path ∧
        resolved.finalIdentity = found.identity := by
    intro resolved h
    rw [resolveGuard, names_text htext hnames] at h
    obtain ⟨⟨⟩, hvalid, h⟩ := Probe.bind_eq_ok h
    rw [Probe.bind_of_ok (verifyRootIdentity_of_admitted hhandle), Probe.bind_of_ok hchecked,
      Probe.bind_of_ok (hplain.canonicalize "resolve"), Probe.bind_of_ok (check_of_true _ hwithin),
      Probe.bind_of_ok (hplain.symlinkMetadata "stat"), Probe.bind_of_ok (hplain.check _)] at h
    obtain ⟨⟨⟩, hkind, h⟩ := Probe.bind_eq_ok h
    obtain ⟨⟨⟩, hlinks, h⟩ := Probe.bind_eq_ok h
    rw [Probe.bind_of_ok hplain.physicalIdentity] at h
    obtain ⟨⟨⟩, -, h⟩ := Probe.bind_eq_ok h
    obtain rfl := Probe.pure_eq_ok h
    exact ⟨⟨(validateRelativePath_eq_ok_iff htext hnames).mp hvalid, fits_iff.mpr ⟨hkind, hlinks⟩⟩,
      rfl, rfl⟩
  refine ⟨⟨?_, ?_⟩, fun resolved h => (hparts resolved h).2⟩
  · rintro ⟨resolved, h⟩
    exact (hparts resolved h).1
  rintro ⟨haddress, hfits⟩
  have hvalid := (validateRelativePath_eq_ok_iff htext hnames).mpr haddress
  refine ⟨⟨handle.root ++ path, checked, found.identity⟩, ?_⟩
  rw [resolveGuard, names_text htext hnames, Probe.bind_of_ok hvalid,
    Probe.bind_of_ok (verifyRootIdentity_of_admitted hhandle), Probe.bind_of_ok hchecked,
    Probe.bind_of_ok (hplain.canonicalize "resolve"), Probe.bind_of_ok (check_of_true _ hwithin),
    Probe.bind_of_ok (hplain.symlinkMetadata "stat"), Probe.bind_of_ok (hplain.check _),
    Probe.bind_of_ok (fits_iff.mp hfits).1, Probe.bind_of_ok (fits_iff.mp hfits).2,
    Probe.bind_of_ok hplain.physicalIdentity,
    Probe.bind_of_ok (verifyResolved_plain hhandle hplain hwithin rfl hrecorded hfits)]
  rfl

end Plain

end JaDesktop.WorkspaceRead
