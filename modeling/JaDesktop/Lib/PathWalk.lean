import Mathlib.Data.List.Basic
import Mathlib.Data.List.Induction
import Mathlib.Data.Nat.Notation

/-!
# Paths of a static file system

A file system is what a system call says of each physical path: a list of names from the root, without
a step to itself or to a parent and without a link on the way.  A path that a program gives is a list of
components, and the kernel walks it component by component, through the links that it meets.
`Resolves` is that walk as a relation, `walk` computes it up to a number of links, and both record
nothing else than the physical paths that they look at.  Where the names are there and no links, the
walk ends at the path that they spell (`walk_names`).
-/

namespace JaDesktop.Files

/-! ## File systems -/

/-- A component of a path. -/
inductive Component (ν : Type)
  | here
  | up
  | name (name : ν)
deriving DecidableEq

/-- What an entry of a directory is; a link has the components of its target, and whether they begin at
the root. -/
inductive Kind (ν : Type)
  | directory
  | file
  | other
  | link (absolute : Bool) (target : List (Component ν))
deriving DecidableEq

/-- What a system call says of an entry. -/
structure Metadata (ν ι : Type) where
  kind : Kind ν
  hardLinks : ℕ
  identity : ι

/-- Why an operation on a path fails. -/
inductive PathError
  | notFound
  | permissionDenied
  | notADirectory
  | other
deriving DecidableEq

/-- A static file system. -/
structure FileSystem (ν ι : Type) where
  metadata : List ν → Except PathError (Metadata ν ι)
  /-- what has an entry is a directory -/
  parent : ∀ {path : List ν} {name : ν} {found : Metadata ν ι},
    metadata (path ++ [name]) = .ok found → ∃ above, metadata path = .ok above ∧ above.kind = .directory

variable {ν ι ε δ α β : Type}

section Entries

variable {ν ι : Type} [DecidableEq ν] {entries : List (List ν × Metadata ν ι)} {path : List ν}
  {found : Metadata ν ι}

/-- What a list of entries says of a path. -/
def lookupEntry (entries : List (List ν × Metadata ν ι)) (path : List ν) :
    Except PathError (Metadata ν ι) :=
  (entries.lookup path).elim (.error .notFound) .ok

lemma mem_of_lookupEntry (h : lookupEntry entries path = .ok found) : (path, found) ∈ entries := by
  rw [lookupEntry] at h
  cases hlookup : entries.lookup path with
  | none =>
    rw [hlookup] at h
    cases h
  | some found' =>
    rw [hlookup] at h
    obtain rfl := Except.ok.inj h
    obtain ⟨before, after, hentries, -⟩ := List.lookup_eq_some_iff.mp hlookup
    rw [hentries]
    exact List.mem_append_right _ List.mem_cons_self

/-- The file system with some entries, each of them the root or in a directory. -/
def FileSystem.ofEntries (entries : List (List ν × Metadata ν ι))
    (h : ∀ entry ∈ entries, entry.1 = [] ∨
      ∃ above ∈ entries.lookup entry.1.dropLast, above.kind = .directory) : FileSystem ν ι where
  metadata := lookupEntry entries
  parent := by
    intro path name found hfound
    rcases h _ (mem_of_lookupEntry hfound) with hnil | ⟨above, habove, hkind⟩
    · exact absurd hnil (by simp)
    · rw [List.dropLast_concat] at habove
      refine ⟨above, ?_, hkind⟩
      rw [lookupEntry, Option.mem_def.mp habove]
      rfl

end Entries

/-! ## Looking at paths -/

/-- A result, with the physical paths that have been looked at for it. -/
structure Probe (ν ε α : Type) where
  paths : List (List ν)
  result : Except ε α

namespace Probe

/-- Without a look at any path. -/
def given (result : Except ε α) : Probe ν ε α := ⟨[], result⟩

/-- One look after the other. -/
def andThen (probe : Probe ν ε α) (next : α → Probe ν ε β) : Probe ν ε β :=
  match probe.result with
  | .error e => ⟨probe.paths, .error e⟩
  | .ok a => ⟨probe.paths ++ (next a).paths, (next a).result⟩

instance : Monad (Probe ν ε) where
  pure a := given (.ok a)
  bind := andThen

/-- `map_err`. -/
def mapError (f : ε → δ) (probe : Probe ν ε α) : Probe ν δ α := ⟨probe.paths, probe.result.mapError f⟩

/-- Only paths of a kind have been looked at. -/
def Within (P : List ν → Prop) (probe : Probe ν ε α) : Prop := ∀ path ∈ probe.paths, P path

variable {P : List ν → Prop} {probe : Probe ν ε α} {next : α → Probe ν ε β} {a : α} {b : β}

lemma pure_eq_ok {a' : α} (h : (pure a : Probe ν ε α).result = .ok a') : a = a' := Except.ok.inj h

lemma bind_eq_ok (h : (probe >>= next).result = .ok b) :
    ∃ a, probe.result = .ok a ∧ (next a).result = .ok b := by
  have h' : (probe.andThen next).result = .ok b := h
  rw [andThen] at h'
  split at h'
  next => cases h'
  next a ha => exact ⟨a, ha, h'⟩

lemma bind_of_ok (h : probe.result = .ok a) :
    (probe >>= next).result = (next a).result := by
  show (probe.andThen next).result = _
  rw [andThen, h]

variable {f : ε → δ}

lemma mapError_eq_ok (h : (probe.mapError f).result = .ok a) : probe.result = .ok a := by
  obtain ⟨paths, result⟩ := probe
  cases result with
  | error e => cases h
  | ok a' =>
    obtain rfl := Except.ok.inj h
    rfl

lemma mapError_of_ok (h : probe.result = .ok a) : (probe.mapError f).result = .ok a := by
  rw [mapError, h]
  rfl

lemma Within.given (result : Except ε α) : Within P (given result : Probe ν ε α) := by
  simp [Within, Probe.given]

lemma Within.bind (h : probe.Within P) (hnext : ∀ a, probe.result = .ok a → (next a).Within P) :
    (probe >>= next).Within P := by
  show (probe.andThen next).Within P
  rw [andThen]
  split
  next => exact h
  next a ha =>
    intro path hpath
    rcases List.mem_append.mp hpath with hmem | hmem
    · exact h path hmem
    · exact hnext a ha path hmem

lemma Within.mapError (h : probe.Within P) : (probe.mapError f).Within P := h

end Probe

/-! ## The walk -/

/-- The lexical normal form: what a path is if it meets no link. -/
def Component.step (path : List ν) : Component ν → List ν
  | here => path
  | up => path.dropLast
  | name n => path ++ [n]

/-- The normal form of some components from a path on. -/
def normalize (path : List ν) (components : List (Component ν)) : List ν :=
  components.foldl Component.step path

namespace FileSystem

variable (fs : FileSystem ν ι)

/-- A physical path is one of a directory. -/
def IsDirectory (path : List ν) : Prop := ∃ found, fs.metadata path = .ok found ∧ found.kind = .directory

/-- A physical path is there, and no link. -/
def IsPlain (path : List ν) : Prop :=
  ∃ found, fs.metadata path = .ok found ∧ ∀ absolute target, found.kind ≠ .link absolute target

/-- Looks at a physical path. -/
def look (path : List ν) : Probe ν PathError (Metadata ν ι) := ⟨[path], fs.metadata path⟩

/-- Goes on in a directory. -/
def enter (path : List ν) : Probe ν PathError Unit :=
  match fs.metadata path with
  | .error e => .given (.error e)
  | .ok found =>
    match found.kind with
    | .directory => pure ()
    | _ => .given (.error .notADirectory)

/-- The walk up to the first link, which is followed by `follow`. -/
def walkFrom (follow : List ν → List (Component ν) → Probe ν PathError (List ν)) :
    List ν → List (Component ν) → Probe ν PathError (List ν)
  | path, [] => pure path
  | path, .here :: rest => do
    fs.enter path
    walkFrom follow path rest
  | path, .up :: rest => do
    fs.enter path
    walkFrom follow path.dropLast rest
  | path, .name n :: rest => do
    fs.enter path
    let found ← fs.look (path ++ [n])
    match found.kind with
    | .link absolute target => follow (if absolute then [] else path) (target ++ rest)
    | _ => walkFrom follow (path ++ [n]) rest

/-- The walk of the kernel through not more than some links. -/
def walk : ℕ → List ν → List (Component ν) → Probe ν PathError (List ν)
  | 0 => fs.walkFrom fun _ _ => .given (.error .other)
  | links + 1 => fs.walkFrom (walk links)

/-- `lstat` of the path of some names: what it ends in is not followed. -/
def symlinkMetadata (links : ℕ) (path : List ν) : Probe ν PathError (Metadata ν ι) :=
  match path.getLast? with
  | none => fs.look []
  | some n => do
    let directory ← fs.walk links [] (path.dropLast.map .name)
    fs.enter directory
    fs.look (directory ++ [n])

/-- The physical path at which some components end, from a directory on. -/
inductive Resolves : List ν → List (Component ν) → List ν → Prop
  | done (path : List ν) : Resolves path [] path
  | here {path rest goal} (hdirectory : fs.IsDirectory path) (hrest : Resolves path rest goal) :
      Resolves path (.here :: rest) goal
  | up {path rest goal} (hdirectory : fs.IsDirectory path) (hrest : Resolves path.dropLast rest goal) :
      Resolves path (.up :: rest) goal
  | name {path n rest goal} (hplain : fs.IsPlain (path ++ [n]))
      (hrest : Resolves (path ++ [n]) rest goal) : Resolves path (.name n :: rest) goal
  | link {path n rest goal absolute target} {found : Metadata ν ι}
      (hfound : fs.metadata (path ++ [n]) = .ok found) (hlink : found.kind = .link absolute target)
      (hrest : Resolves (if absolute then [] else path) (target ++ rest) goal) :
      Resolves path (.name n :: rest) goal

variable {fs}

/-! ## Plain paths -/

variable {path goal : List ν} {components : List (Component ν)}

lemma IsDirectory.isPlain (h : fs.IsDirectory path) : fs.IsPlain path := by
  obtain ⟨found, hfound, hkind⟩ := h
  refine ⟨found, hfound, fun absolute target hlink => ?_⟩
  rw [hkind] at hlink
  cases hlink

lemma IsPlain.directory {n : ν} (h : fs.IsPlain (path ++ [n])) :
    fs.IsDirectory path := by
  obtain ⟨found, hfound, -⟩ := h
  exact fs.parent hfound

lemma IsPlain.above {names : List ν} (h : fs.IsPlain (path ++ names)) :
    fs.IsPlain path := by
  induction names using List.reverseRecOn with
  | nil => rwa [List.append_nil] at h
  | append_singleton names n ih =>
    rw [← List.append_assoc] at h
    exact ih h.directory.isPlain

lemma enter_eq_ok (h : (fs.enter path).result = .ok ()) : fs.IsDirectory path := by
  rw [enter] at h
  split at h
  next => cases h
  next found hfound =>
    split at h
    next hkind => exact ⟨found, hfound, hkind⟩
    next => cases h

lemma IsDirectory.enter (h : fs.IsDirectory path) :
    fs.enter path = (pure () : Probe ν PathError Unit) := by
  obtain ⟨found, hfound, hkind⟩ := h
  rw [FileSystem.enter, hfound]
  simp only [hkind]

lemma enter_within {P : List ν → Prop} (path : List ν) : (fs.enter path).Within P := by
  rw [FileSystem.enter]
  split
  next => exact .given _
  next =>
    split
    · exact .given _
    · exact .given _

lemma look_within {P : List ν → Prop} (h : P path) : (fs.look path).Within P := by
  exact List.forall_mem_singleton.mpr h

/-! ## What the walk computes -/

lemma walkFrom_sound {follow : List ν → List (Component ν) → Probe ν PathError (List ν)}
    (hfollow : ∀ {path components goal}, (follow path components).result = .ok goal →
      fs.Resolves path components goal) (h : (fs.walkFrom follow path components).result = .ok goal) :
    fs.Resolves path components goal := by
  induction components generalizing path with
  | nil =>
    obtain rfl := Probe.pure_eq_ok h
    exact .done path
  | cons component rest ih =>
    cases component with
    | here =>
      obtain ⟨⟨⟩, henter, hrest⟩ := Probe.bind_eq_ok h
      exact .here (enter_eq_ok henter) (ih hrest)
    | up =>
      obtain ⟨⟨⟩, henter, hrest⟩ := Probe.bind_eq_ok h
      exact .up (enter_eq_ok henter) (ih hrest)
    | name n =>
      obtain ⟨⟨⟩, henter, hnext⟩ := Probe.bind_eq_ok h
      obtain ⟨found, hfound, hrest⟩ := Probe.bind_eq_ok hnext
      split at hrest
      next absolute target hlink => exact .link hfound hlink (hfollow hrest)
      next hplain => exact .name ⟨found, hfound, hplain⟩ (ih hrest)

/-- **The walk follows the relation.** -/
theorem walk_sound {links : ℕ} (h : (fs.walk links path components).result = .ok goal) :
    fs.Resolves path components goal := by
  induction links generalizing path components goal with
  | zero => exact walkFrom_sound (fun h => by cases h) h
  | succ links ih => exact walkFrom_sound ih h

lemma Resolves.unique {goal' : List ν} (h : fs.Resolves path components goal)
    (h' : fs.Resolves path components goal') : goal = goal' := by
  induction h with
  | done =>
    cases h'
    rfl
  | here _ _ ih =>
    cases h' with
    | here _ hrest => exact ih hrest
  | up _ _ ih =>
    cases h' with
    | up _ hrest => exact ih hrest
  | name hplain _ ih =>
    cases h' with
    | name _ hrest => exact ih hrest
    | link hfound hlink =>
      obtain ⟨found, hfound', hkind⟩ := hplain
      rw [hfound] at hfound'
      obtain rfl := Except.ok.inj hfound'
      exact absurd hlink (hkind _ _)
  | link hfound hlink _ ih =>
    cases h' with
    | name hplain =>
      obtain ⟨found, hfound', hkind⟩ := hplain
      rw [hfound] at hfound'
      obtain rfl := Except.ok.inj hfound'
      exact absurd hlink (hkind _ _)
    | link hfound' hlink' hrest =>
      rw [hfound] at hfound'
      obtain rfl := Except.ok.inj hfound'
      rw [hlink] at hlink'
      obtain ⟨rfl, rfl⟩ := Kind.link.inj hlink'
      exact ih hrest

section Plain

variable {P : List ν → Prop} {follow : List ν → List (Component ν) → Probe ν PathError (List ν)}
  {path : List ν} {n : ν} {rest : List (Component ν)}

lemma walkFrom_name (h : fs.IsPlain (path ++ [n])) :
    fs.walkFrom follow path (.name n :: rest) =
      (fs.look (path ++ [n]) >>= fun _ => fs.walkFrom follow (path ++ [n]) rest) := by
  have hdirectory := h.directory
  obtain ⟨found, hfound, hplain⟩ := h
  show (fs.enter path >>= fun _ => fs.look (path ++ [n]) >>= fun found =>
    match found.kind with
    | .link absolute target => follow (if absolute then [] else path) (target ++ rest)
    | _ => fs.walkFrom follow (path ++ [n]) rest) = _
  rw [hdirectory.enter]
  show (fs.look (path ++ [n])).andThen _ = (fs.look (path ++ [n])).andThen _
  -- by `hplain` the other branch is taken
  simp only [Probe.andThen, look, hfound]

lemma walk_eq_walkFrom (fs : FileSystem ν ι) (links : ℕ) : ∃ follow, fs.walk links = fs.walkFrom follow := by
  cases links with
  | zero => exact ⟨_, rfl⟩
  | succ links => exact ⟨_, rfl⟩

lemma walk_names (links : ℕ) {names : List ν} (h : fs.IsPlain (path ++ names))
    (hP : ∀ first, first <+: names → P (path ++ first)) :
    (fs.walk links path (names.map .name)).result = .ok (path ++ names) ∧
      (fs.walk links path (names.map .name)).Within P := by
  obtain ⟨follow, hfollow⟩ := walk_eq_walkFrom fs links
  rw [hfollow]
  clear hfollow
  induction names generalizing path with
  | nil =>
    rw [List.append_nil]
    exact ⟨rfl, .given _⟩
  | cons n names ih =>
    have hsplit (l : List ν) : path ++ n :: l = path ++ [n] ++ l := by simp
    rw [hsplit] at h ⊢
    obtain ⟨hresult, hwithin⟩ := ih h fun first hfirst => by
      rw [← hsplit]
      exact hP (n :: first) (List.cons_prefix_cons.mpr ⟨rfl, hfirst⟩)
    obtain ⟨found, hfound, -⟩ := h.above
    rw [List.map_cons, walkFrom_name h.above]
    constructor
    · rw [Probe.bind_of_ok (a := found) hfound, hresult]
    · refine (look_within ?_).bind fun _ _ => hwithin
      exact hP [n] (List.cons_prefix_cons.mpr ⟨rfl, List.nil_prefix⟩)

end Plain

/-! ## Paths without links -/

variable (fs) in
/-- The root, or a path that is there and no link. -/
def IsClear (path : List ν) : Prop := path = [] ∨ fs.IsPlain path

section Clear

variable {P : List ν → Prop} {path : List ν} {n : ν}

lemma IsClear.dropLast (h : fs.IsClear path) : fs.IsClear path.dropLast := by
  rcases h with rfl | hplain
  · exact .inl rfl
  · rcases List.eq_nil_or_concat' path with rfl | ⟨above, n, rfl⟩
    · exact .inl rfl
    · rw [List.dropLast_concat]
      exact .inr hplain.directory.isPlain

lemma walk_clear (links : ℕ) (h : fs.IsClear path) (hP : ∀ first, first <+: path → P first) :
    (fs.walk links [] (path.map .name)).result = .ok path ∧
      (fs.walk links [] (path.map .name)).Within P := by
  rcases h with rfl | hplain
  · cases links <;> exact ⟨rfl, .given _⟩
  · exact walk_names links (show fs.IsPlain ([] ++ path) from hplain) hP

/-- `lstat` below a clear path looks only at what is on the way. -/
lemma symlinkMetadata_of_clear (links : ℕ) (h : fs.IsClear path)
    (hP : ∀ first, first <+: path ++ [n] → P first) :
    (∀ found, (fs.symlinkMetadata links (path ++ [n])).result = .ok found →
      fs.metadata (path ++ [n]) = .ok found) ∧
      (fs.symlinkMetadata links (path ++ [n])).Within P := by
  obtain ⟨hresult, hwithin⟩ := walk_clear (P := P) links h fun first hfirst =>
    hP first (hfirst.trans (List.prefix_append path [n]))
  rw [symlinkMetadata, List.getLast?_concat, List.dropLast_concat]
  constructor
  · intro found hfound
    obtain ⟨directory, hdirectory, hnext⟩ := Probe.bind_eq_ok hfound
    obtain ⟨⟨⟩, -, hlook⟩ := Probe.bind_eq_ok hnext
    rw [hresult] at hdirectory
    obtain rfl : path = directory := Except.ok.inj hdirectory
    exact hlook
  · refine hwithin.bind fun directory hdirectory => ?_
    rw [hresult] at hdirectory
    obtain rfl : path = directory := Except.ok.inj hdirectory
    exact (enter_within _).bind fun _ _ => look_within (hP _ List.prefix_rfl)

/-- `lstat` of a path that is there and no link. -/
lemma symlinkMetadata_plain (links : ℕ) (h : fs.IsPlain path) :
    (fs.symlinkMetadata links path).result = fs.metadata path := by
  rcases List.eq_nil_or_concat' path with rfl | ⟨above, n, rfl⟩
  · rfl
  · have hdirectory := h.directory
    obtain ⟨hresult, -⟩ := walk_clear (P := fun _ => True) links (.inr hdirectory.isPlain)
      fun _ _ => trivial
    rw [symlinkMetadata, List.getLast?_concat, List.dropLast_concat]
    show (fs.walk links [] _ >>= _).result = _
    rw [Probe.bind_of_ok hresult]
    show (fs.enter above >>= _).result = _
    rw [hdirectory.enter]
    rfl

end Clear

end FileSystem

end JaDesktop.Files
