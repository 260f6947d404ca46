import JaDesktop.GitRead.Parse
import JaDesktop.WorkspaceRead.PathGuard

/-!
# The pointers of a repository

A `.git` file and a `commondir` file hold the path of another directory of the repository.  The path is
checked lexically, then component by component, and then by the system.
-/

namespace JaDesktop.GitRead

open JaDesktop.Files JaDesktop.WorkspaceRead

def maxPointerBytes : ℕ := 4 * 1024

/-- The components of the path that a pointer in a directory means. -/
def candidatePath (base : List Name) (value : String) : List (Component Name) :=
  if isAbsolute (asBytes value) then components (asBytes value)
  else base.map .name ++ components (asBytes value)

def lexicalPathIsWithin (root : List Name) (candidate : List (Component Name)) : Bool :=
  pathIsWithin root (normalize [] candidate)

def resolveInternalPointer (fs : FileSystem Name FileIdentity) (links : ℕ) (root base : List Name)
    (value : String) : Probe Name GitError (List Name) :=
  let bytes := asBytes value
  if bytes.isEmpty || bytes.length > maxPointerBytes || bytes.contains 0 then
    .given (.error .externalWorktree)
  else if !lexicalPathIsWithin root (candidatePath base value) then .given (.error .externalWorktree)
  else do
    (rejectLinkComponents fs links (candidatePath base value)).mapError fun _ => .externalWorktree
    let canonical ← (fs.walk links [] (candidatePath base value)).mapError fun _ => .externalWorktree
    .given (if pathIsWithin root canonical then .ok canonical else .error .externalWorktree)

/-- `to_str` of a name. -/
def nameText (name : Name) : Except GitError String :=
  match fromUtf8 name with
  | some text => .ok text
  | none => .error .externalWorktree

def relativePathText (root path : List Name) : Except GitError String :=
  if !pathIsWithin root path then .error .externalWorktree
  else do
    let parts ← (path.drop root.length).mapM nameText
    return "/".intercalate parts

end JaDesktop.GitRead
