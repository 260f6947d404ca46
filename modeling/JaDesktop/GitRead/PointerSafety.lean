import JaDesktop.GitRead.Pointers
import JaDesktop.WorkspaceRead.GuardReach

/-!
# Where the pointers of a repository lead

An accepted pointer is the physical path of what it names, inside the root.
-/

namespace JaDesktop.GitRead

open JaDesktop.Files JaDesktop.WorkspaceRead

/-! ## The walks -/

/-- Every path that some components pass through, lexically. -/
def Passes (P : List Name → Prop) (path : List Name) (components : List (Component Name)) : Prop :=
  ∀ first, first <+: components → ∀ seen, seen <+: normalize path first → P seen

variable {P : List Name → Prop} {path : List Name} {part : Component Name}
  {rest : List (Component Name)}

lemma Passes.tail (h : Passes P path (part :: rest)) : Passes P (part.step path) rest :=
  fun first hfirst seen hseen => h (part :: first) (List.cons_prefix_cons.mpr ⟨rfl, hfirst⟩) seen hseen

/-- What the link check says of the components: where it accepts, the path that they reach is clear,
and the walk of the system, if it ends, ends there.  Both look only at what the components pass
through. -/
theorem rejectLinkComponentsFrom_spec (fs : FileSystem Name FileIdentity) (links : ℕ)
    (follow : List Name → List (Component Name) → Probe Name PathError (List Name))
    {parts : List (Component Name)} (hclear : fs.IsClear path) (hP : Passes P path parts) :
    (rejectLinkComponentsFrom fs links path parts).Within P ∧
      ((rejectLinkComponentsFrom fs links path parts).result = .ok () →
        (fs.walkFrom follow path parts).Within P ∧
          ∀ goal, (fs.walkFrom follow path parts).result = .ok goal →
            goal = normalize path parts ∧ fs.IsClear goal) := by
  induction parts generalizing path with
  | nil =>
    refine ⟨.given _, fun _ => ⟨.given _, fun goal hgoal => ?_⟩⟩
    obtain rfl := Probe.pure_eq_ok hgoal
    exact ⟨rfl, hclear⟩
  | cons part rest ih =>
    cases part with
    | here =>
      obtain ⟨hwithin, hrest⟩ := ih hclear hP.tail
      refine ⟨hwithin, fun haccepted => ?_⟩
      obtain ⟨hwalk, hgoal⟩ := hrest haccepted
      refine ⟨(FileSystem.enter_within _).bind fun _ _ => hwalk, fun goal h => ?_⟩
      obtain ⟨⟨⟩, -, hnext⟩ := Probe.bind_eq_ok h
      exact hgoal goal hnext
    | up =>
      obtain ⟨hwithin, hrest⟩ := ih hclear.dropLast hP.tail
      refine ⟨hwithin, fun haccepted => ?_⟩
      obtain ⟨hwalk, hgoal⟩ := hrest haccepted
      refine ⟨(FileSystem.enter_within _).bind fun _ _ => hwalk, fun goal h => ?_⟩
      obtain ⟨⟨⟩, -, hnext⟩ := Probe.bind_eq_ok h
      exact hgoal goal hnext
    | name name =>
      have hstep (first : List Name) (hfirst : first <+: path ++ [name]) : P first :=
        hP [.name name] (List.cons_prefix_cons.mpr ⟨rfl, List.nil_prefix⟩) first hfirst
      obtain ⟨hfound, hlook⟩ := FileSystem.symlinkMetadata_of_clear links hclear hstep
      have hclear' {found : Entry} (hentry : fs.metadata (path ++ [name]) = .ok found)
          (hlink : isLink found = false) : fs.IsPlain (path ++ [name]) := by
        refine ⟨found, hentry, fun absolute target hkind => ?_⟩
        rw [isLink, hkind] at hlink
        cases hlink
      constructor
      · refine hlook.mapError.bind fun found hentry => ?_
        refine (Probe.Within.given _).bind fun _ hcheck => ?_
        have hlink : isLink found = false := Bool.not_eq_true' _ |>.mp (check_eq_ok hcheck)
        exact (ih (.inr (hclear' (hfound found (Probe.mapError_eq_ok hentry)) hlink)) hP.tail).1
      · intro haccepted
        obtain ⟨found, hentry, hnext⟩ := Probe.bind_eq_ok haccepted
        obtain ⟨⟨⟩, hcheck, hrest⟩ := Probe.bind_eq_ok hnext
        have hlink : isLink found = false := Bool.not_eq_true' _ |>.mp (check_eq_ok hcheck)
        have hplain := hclear' (hfound found (Probe.mapError_eq_ok hentry)) hlink
        obtain ⟨hwalk, hgoal⟩ := (ih (.inr hplain) hP.tail).2 hrest
        rw [FileSystem.walkFrom_name hplain]
        refine ⟨(FileSystem.look_within (hstep _ List.prefix_rfl)).bind fun _ _ => hwalk,
          fun goal h => ?_⟩
        obtain ⟨-, -, hwalked⟩ := Probe.bind_eq_ok h
        exact hgoal goal hwalked

/-! ## Pointers -/

/-- A path above the root, the root or a path inside it. -/
def Near (root path : List Name) : Prop := path <+: root ∨ root <+: path

lemma Near.above {root first : List Name} (h : Near root path) (hfirst : first <+: path) :
    Near root first := by
  rcases h with h | h
  · exact .inl (hfirst.trans h)
  · exact (List.prefix_or_prefix_of_prefix hfirst h)

/-- The pointer passes only through paths near the root, lexically. -/
def StaysNear (root base : List Name) (value : String) : Prop :=
  ∀ first, first <+: candidatePath base value → Near root (normalize [] first)

/-- What an accepted pointer is, and what is looked at before a pointer is accepted or refused. -/
theorem resolveInternalPointer_spec (fs : FileSystem Name FileIdentity) (links : ℕ)
    (root base : List Name) (value : String) :
    (∀ path, (resolveInternalPointer fs links root base value).result = .ok path →
        fs.Resolves [] (candidatePath base value) path ∧ root <+: path ∧ fs.IsClear path) ∧
      (StaysNear root base value →
        (resolveInternalPointer fs links root base value).Within (Near root)) := by
  obtain ⟨follow, hfollow⟩ := FileSystem.walk_eq_walkFrom fs links
  have hspec {P : List Name → Prop} (hP : Passes P [] (candidatePath base value)) :=
    rejectLinkComponentsFrom_spec fs links follow (.inl rfl) hP
  rw [resolveInternalPointer]
  split_ifs with hvalue hlexical
  · exact ⟨fun _ h => (by cases h), fun _ => .given _⟩
  · exact ⟨fun _ h => (by cases h), fun _ => .given _⟩
  constructor
  · intro path h
    obtain ⟨⟨⟩, hreject, hnext⟩ := Probe.bind_eq_ok h
    obtain ⟨canonical, hwalk, hrest⟩ := Probe.bind_eq_ok hnext
    obtain ⟨-, hgoal⟩ := (hspec (P := fun _ => True) fun _ _ _ _ => trivial).2
      (Probe.mapError_eq_ok hreject)
    have hwalked := Probe.mapError_eq_ok hwalk
    have hresolves := FileSystem.walk_sound hwalked
    rw [hfollow] at hwalked
    obtain ⟨-, hclear⟩ := hgoal canonical hwalked
    have hwithin : pathIsWithin root canonical = true := by
      by_contra hout
      rw [Probe.given, if_neg hout] at hrest
      cases hrest
    rw [Probe.given, if_pos hwithin] at hrest
    obtain rfl := Except.ok.inj hrest
    exact ⟨hresolves, pathIsWithin_iff.mp hwithin, hclear⟩
  · intro hnear
    have hP : Passes (Near root) [] (candidatePath base value) :=
      fun first hfirst seen hseen => (hnear first hfirst).above hseen
    obtain ⟨hreject, hwalk⟩ := hspec hP
    refine hreject.mapError.bind fun _ haccepted => ?_
    obtain ⟨hwithin, -⟩ := hwalk (Probe.mapError_eq_ok haccepted)
    rw [hfollow]
    exact hwithin.mapError.bind fun _ _ => .given _

lemma isName_of_mem {files : UnixFiles} (h : files.IsPlain path) : ∀ name ∈ path, IsName name := by
  intro name hname
  obtain ⟨before, after, rfl⟩ := List.append_of_mem hname
  rw [List.append_cons] at h
  obtain ⟨found, hfound, -⟩ := h.above
  exact files.isName hfound

variable {text : String}

lemma asBytes_of_fromUtf8 {bytes : List UInt8} (h : fromUtf8 bytes = some text) :
    asBytes text = bytes := by
  rw [fromUtf8, String.fromUTF8?] at h
  split_ifs at h
  obtain rfl := Option.some_inj.mp h
  rfl

lemma nameText_eq_ok_iff {name : Name} :
    nameText name = .ok text ↔ name = asBytes text := by
  rw [nameText]
  constructor
  · intro h
    split at h
    next text' htext =>
      obtain rfl := Except.ok.inj h
      exact (asBytes_of_fromUtf8 htext).symm
    next => cases h
  · rintro rfl
    rw [fromUtf8_asBytes]

lemma mapM_nameText_eq_ok_iff {parts : List String} :
    path.mapM nameText = .ok parts ↔ path = parts.map asBytes := by
  induction path generalizing parts with
  | nil =>
    rw [List.mapM_nil]
    constructor
    · intro h
      rw [← Except.ok.inj h]
      rfl
    · intro h
      rw [List.map_eq_nil_iff.mp h.symm]
      rfl
  | cons name path ih =>
    rw [List.mapM_cons]
    constructor
    · intro h
      obtain ⟨text, htext, hrest⟩ := bind_eq_ok.mp h
      obtain ⟨texts, htexts, hlast⟩ := bind_eq_ok.mp hrest
      rw [← Except.ok.inj hlast, List.map_cons, ← nameText_eq_ok_iff.mp htext, ← ih.mp htexts]
    · intro h
      obtain ⟨text, texts, rfl, hname, hpath⟩ := List.map_eq_cons_iff.mp h.symm
      rw [nameText_eq_ok_iff.mpr hname.symm, ih.mpr hpath.symm]
      rfl

/-- A path below the root has a text exactly when its names have, and the text has their bytes. -/
lemma relativePathText_eq_ok_iff {root : List Name} :
    relativePathText root (root ++ path) = .ok text ↔
      ∃ parts, path = parts.map asBytes ∧ text = "/".intercalate parts := by
  rw [relativePathText, pathIsWithin_iff.mpr (List.prefix_append root path), List.drop_left,
    Bool.not_true, if_neg Bool.false_ne_true, bind_eq_ok]
  constructor
  · rintro ⟨parts, hparts, htext⟩
    exact ⟨parts, mapM_nameText_eq_ok_iff.mp hparts, (Except.ok.inj htext).symm⟩
  · rintro ⟨parts, hparts, rfl⟩
    exact ⟨parts, mapM_nameText_eq_ok_iff.mpr hparts, rfl⟩

/-- What a pointer that has been accepted leads to: the one physical path that it resolves to, inside the
root; its text is that of its names, and the guard of the workspace reaches the same entry by the text
exactly when it can address the text and the entry fits. -/
structure Inside (files : UnixFiles) (links : ℕ) (handle : WorkspaceHandle) (base : List Name)
    (value : String) (path : List Name) : Prop where
  resolves : ∀ goal, files.Resolves [] (candidatePath base value) goal ↔ goal = path
  within : handle.root <+: path
  text : (∃ text, relativePathText handle.root path = .ok text) ↔
    ∀ name ∈ path.drop handle.root.length, ∃ text, name = asBytes text
  reached : ∀ text, relativePathText handle.root path = .ok text →
    ∃ found, files.metadata path = .ok found ∧ ∀ directory,
      ((∃ resolved, (resolveGuard files.toFileSystem links handle text directory).result =
          .ok resolved) ↔ Addressable text ∧ Fits found directory) ∧
        ∀ resolved, (resolveGuard files.toFileSystem links handle text directory).result =
          .ok resolved → resolved.path = path ∧ resolved.finalIdentity = found.identity

/-- A root `w` with a directory `x:y` in it, and a directory `out` beside it. -/
def twoDirectories : List (List Name × Entry) :=
  [([], ⟨.directory, 4, 0, 1⟩), ([[0x77]], ⟨.directory, 3, 0, 2⟩),
    ([[0x77], [0x78, 0x3A, 0x79]], ⟨.directory, 2, 0, 3⟩),
    ([[0x6F, 0x75, 0x74]], ⟨.directory, 2, 0, 4⟩)]

/-- Their file system. -/
def twoDirectoriesFiles : UnixFiles where
  toFileSystem := .ofEntries twoDirectories (by decide)
  isName := by
    intro path name found hfound
    have hlast : name ∈ twoDirectories.filterMap (·.1.getLast?) :=
      List.mem_filterMap.mpr ⟨_, mem_of_lookupEntry hfound, List.getLast?_concat⟩
    have hnames : twoDirectories.filterMap (·.1.getLast?) =
        [[0x77], [0x78, 0x3A, 0x79], [0x6F, 0x75, 0x74]] := rfl
    rw [hnames] at hlast
    simp only [List.mem_cons, List.not_mem_nil, or_false] at hlast
    rcases hlast with rfl | rfl | rfl <;> constructor <;> decide

def twoDirectoriesHandle : WorkspaceHandle := ⟨[[0x77]], 0, 2⟩

lemma twoDirectoriesHandle_admitted :
    twoDirectoriesHandle.Admitted twoDirectoriesFiles.toFileSystem :=
  ⟨⟨.directory, 3, 0, 2⟩, rfl, rfl, rfl⟩

end JaDesktop.GitRead
