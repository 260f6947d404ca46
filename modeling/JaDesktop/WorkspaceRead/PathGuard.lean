import JaDesktop.Lib.PathWalk
import JaDesktop.Lib.Text
import JaDesktop.WorkspaceRead.Model

/-!
# The guard of the paths of a workspace

How a path below the root of a workspace is checked before a file is read, on a Unix system whose files
do not change.  Names are the bytes of the system; a path that has been built by `push` and `pop` is the
list of its names.
-/

namespace JaDesktop.WorkspaceRead

open JaDesktop.Files

/-- A name of an entry, as the system has it. -/
abbrev Name := List UInt8

/-- `FileIdentity`: the device and the inode. -/
structure FileIdentity where
  volume : ℕ
  file : ℕ
deriving DecidableEq

/-- What the system calls say. -/
abbrev Entry := Metadata Name FileIdentity

/-- A name that an entry can have. -/
structure IsName (name : Name) : Prop where
  ne_nil : name ≠ []
  slash : 0x2F ∉ name
  nul : 0 ∉ name
  ne_here : name ≠ [0x2E]
  ne_up : name ≠ [0x2E, 0x2E]

/-- A static file system of a Unix system. -/
structure UnixFiles extends FileSystem Name FileIdentity where
  isName : ∀ {path : List Name} {name : Name} {found : Entry},
    metadata (path ++ [name]) = .ok found → IsName name

/-- The component of a piece of a path between two slashes. -/
def component (piece : Name) : Component Name :=
  if piece = [] ∨ piece = [0x2E] then .here
  else if piece = [0x2E, 0x2E] then .up
  else .name piece

/-- The components of a path.  `Path::components` leaves empty pieces and single points out, but the
system asks for a directory there. -/
def components (path : List UInt8) : List (Component Name) := (path.splitOn 0x2F).map component

/-- `Path::is_absolute`. -/
def isAbsolute (path : List UInt8) : Bool := path.head? == some 0x2F

/-! ## Errors -/

/-- `Error::kind`. -/
def errorKind : PathError → IoErrorKind
  | .notFound => .notFound
  | .permissionDenied => .permissionDenied
  | .notADirectory => .notADirectory
  | .other => .other

/-- `WorkspaceError::io`. -/
def ioError (operation : String) (error : PathError) : WorkspaceError := .io operation (errorKind error)

def mapPathError (operation : String) : PathError → WorkspaceError
  | .notFound => .pathNotFound
  | .permissionDenied => .io operation .permissionDenied
  | error => ioError operation error

/-! ## Checks -/

def pathIsWithin (root candidate : List Name) : Bool :=
  if candidate.length < root.length then false
  else (root.zip candidate).all fun (root, candidate) => root == candidate

def validateRelativePath (relativePath : String) : Except WorkspaceError Unit :=
  let bytes := asBytes relativePath
  if bytes.contains 0 || bytes.length > 4 * 1024 || bytes.contains 0x3A || bytes.contains 0x5C then
    .error .invalidRelativePath
  else if isAbsolute bytes then .error .invalidRelativePath
  -- a point is a component only at the beginning
  else if (bytes.splitOn 0x2F).head? == some [0x2E] || (components bytes).contains .up then
    .error .invalidRelativePath
  else .ok ()

/-- `is_symlink`, and `is_reparse_point`, which is false here. -/
def isLink (found : Entry) : Bool :=
  match found.kind with
  | .link _ _ => true
  | _ => false

def isDir (found : Entry) : Bool := found.kind == .directory

def isFile (found : Entry) : Bool := found.kind == .file

/-- A check of what has been found. -/
def check (condition : Bool) (error : WorkspaceError) : Probe Name WorkspaceError Unit :=
  .given (if condition then .ok () else .error error)

lemma check_eq_ok {condition : Bool} {error : WorkspaceError} {u : Unit}
    (h : (check condition error).result = .ok u) : condition = true := by
  cases condition with
  | true => rfl
  | false => cases h

section Calls

variable (fs : FileSystem Name FileIdentity) (links : ℕ)

/-- `fs::symlink_metadata`, with its error mapped. -/
def symlinkMetadata (path : List Name) (operation : String) : Probe Name WorkspaceError Entry :=
  (fs.symlinkMetadata links path).mapError (mapPathError operation)

/-- `fs::canonicalize`, with its error mapped. -/
def canonicalize (path : List Name) (operation : String) : Probe Name WorkspaceError (List Name) :=
  (fs.walk links [] (path.map .name)).mapError (mapPathError operation)

/-- `physical_identity`, which follows links. -/
def physicalIdentity (path : List Name) : Probe Name WorkspaceError FileIdentity := do
  let physical ← (fs.walk links [] (path.map .name)).mapError (ioError "identity")
  let found ← (fs.look physical).mapError (ioError "identity")
  return found.identity

/-- `reject_link_components`, from a path on. -/
def rejectLinkComponentsFrom :
    List Name → List (Component Name) → Probe Name WorkspaceError Unit
  | _, [] => pure ()
  | current, .here :: rest => rejectLinkComponentsFrom current rest
  | current, .up :: rest => rejectLinkComponentsFrom current.dropLast rest
  | current, .name name :: rest => do
    let found ← symlinkMetadata fs links (current ++ [name]) "root"
    check (!isLink found) .invalidRoot
    rejectLinkComponentsFrom (current ++ [name]) rest

def rejectLinkComponents (path : List (Component Name)) : Probe Name WorkspaceError Unit :=
  rejectLinkComponentsFrom fs links [] path

/-! ## The guard -/

/-- `WorkspaceHandle`; its id names no file. -/
structure WorkspaceHandle where
  root : List Name
  rootIdentity : FileIdentity

structure ResolvedPath where
  path : List Name
  components : List (List Name × FileIdentity)
  finalIdentity : FileIdentity

variable (handle : WorkspaceHandle)

def verifyRootIdentity : Probe Name WorkspaceError Unit := do
  let found ← symlinkMetadata fs links handle.root "root"
  check (!isLink found) .linkNotAllowed
  check (isDir found) .pathChanged
  let identity ← physicalIdentity fs links handle.root
  check (identity == handle.rootIdentity) .pathChanged

/-- The loop of `resolve_guard` over the names of the path. -/
def guardNames : List Name → List Name →
    Probe Name WorkspaceError (List Name × List (List Name × FileIdentity))
  | current, [] => pure (current, [])
  | current, name :: names => do
    let found ← symlinkMetadata fs links (current ++ [name]) "stat"
    check (!isLink found) .linkNotAllowed
    let identity ← physicalIdentity fs links (current ++ [name])
    let (reached, checked) ← guardNames (current ++ [name]) names
    return (reached, (current ++ [name], identity) :: checked)

/-- The names of a path that has been validated. -/
def names (path : String) : List Name :=
  (components (asBytes path)).filterMap fun
    | .name name => some name
    | _ => none

/-- The kind of the path that the caller asks for. -/
def checkDirectory (found : Entry) : Option Bool → Probe Name WorkspaceError Unit
  | none => pure ()
  | some true => check (isDir found) .notDirectory
  | some false => check (isFile found) .notFile

/-- `hard_link_count`. -/
def checkHardLinks (found : Entry) : Probe Name WorkspaceError Unit :=
  check (!(isFile found && decide (found.hardLinks > 1))) .linkNotAllowed

/-- The loop of `verify_resolved`. -/
def verifyComponents : List (List Name × FileIdentity) → Probe Name WorkspaceError Unit
  | [] => pure ()
  | (path, expected) :: rest => do
    let found ← symlinkMetadata fs links path "recheck"
    check (!isLink found) .linkNotAllowed
    let identity ← physicalIdentity fs links path
    check (identity == expected) .pathChanged
    verifyComponents rest

def verifyResolved (resolved : ResolvedPath) (directory : Option Bool) :
    Probe Name WorkspaceError Unit := do
  verifyRootIdentity fs links handle
  verifyComponents fs links resolved.components
  let canonical ← canonicalize fs links resolved.path "recheck"
  check (canonical == resolved.path && pathIsWithin handle.root canonical) .pathChanged
  let found ← symlinkMetadata fs links canonical "recheck"
  check (!isLink found) .linkNotAllowed
  let identity ← physicalIdentity fs links canonical
  check (identity == resolved.finalIdentity) .pathChanged
  check (directory.all (· == isDir found))
    (if directory = some true then .notDirectory else .notFile)
  checkHardLinks found
  verifyRootIdentity fs links handle

/-- `WorkspaceHandle::resolve_guard`. -/
def resolveGuard (relativePath : String) (directory : Option Bool) :
    Probe Name WorkspaceError ResolvedPath := do
  .given (validateRelativePath relativePath)
  verifyRootIdentity fs links handle
  let (current, components) ← guardNames fs links handle.root (names relativePath)
  let canonical ← canonicalize fs links current "resolve"
  check (pathIsWithin handle.root canonical) .outsideWorkspace
  let found ← symlinkMetadata fs links canonical "stat"
  check (!isLink found) .linkNotAllowed
  checkDirectory found directory
  checkHardLinks found
  let finalIdentity ← physicalIdentity fs links canonical
  let resolved : ResolvedPath := { path := canonical, components, finalIdentity }
  verifyResolved fs links handle resolved directory
  return resolved

end Calls

end JaDesktop.WorkspaceRead
