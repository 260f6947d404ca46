import JaDesktop.Lib.OrderedMap

/-!
# What the readers of a workspace report

Revisions of files and the errors of the bounded readers.
-/

namespace JaDesktop.WorkspaceRead

/-- Distinguishes entries that may be traversed from opaque filesystem nodes. -/
inductive EntryKind
  | file
  | directory
  | symlink
  | reparsePoint
  | other
deriving DecidableEq, Repr

/-- A stable identity snapshot used to detect external edits between reads. -/
structure FileRevision where
  kind : EntryKind
  size : ℕ
  modifiedUnixMillis : Option ℕ
  sha256 : Option String
deriving DecidableEq, Repr

/-- The kinds of errors that operations on files give. -/
inductive IoErrorKind
  | notFound
  | permissionDenied
  | alreadyExists
  | wouldBlock
  | notADirectory
  | isADirectory
  | directoryNotEmpty
  | readOnlyFilesystem
  | staleNetworkFileHandle
  | invalidInput
  | invalidData
  | timedOut
  | storageFull
  | quotaExceeded
  | fileTooLarge
  | resourceBusy
  | deadlock
  | crossesDevices
  | tooManyLinks
  | invalidFilename
  | interrupted
  | unsupported
  | unexpectedEof
  | outOfMemory
  | other
deriving DecidableEq, Repr

/-- Stable, path-redacted errors. -/
inductive WorkspaceError
  | invalidRoot
  | workspaceNotFound
  | invalidRelativePath
  | outsideWorkspace
  | pathChanged
  | linkNotAllowed
  | pathNotFound
  | notDirectory
  | notFile
  | entryBudgetExceeded
  | depthLimitExceeded
  | scanDeadlineExceeded
  | staleCursor
  | fileTooLarge
  | changedDuringRead
  | io (operation : String) (kind : IoErrorKind)
deriving DecidableEq, Repr

end JaDesktop.WorkspaceRead
