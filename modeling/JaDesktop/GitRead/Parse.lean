import JaDesktop.Lib.Outcomes
import JaDesktop.Lib.RustText

/-!
# The parsers of what git prints

Porcelain-v2 status and the six-field log format, both with NUL-terminated records or fields.
-/

namespace JaDesktop.GitRead

open JaDesktop.Rust

/-- The errors of the adapter that its parsers and checks give. -/
inductive GitError
  | invalidPath
  | externalWorktree
  | parse
deriving DecidableEq, Repr

/-- Porcelain-v2 status record categories. -/
inductive GitStatusKind
  | head
  | changed
  | renamed
  | unmerged
  | untracked
  | ignored
deriving DecidableEq, Repr

structure GitStatusEntry where
  kind : GitStatusKind
  indexStatus : Option Char
  worktreeStatus : Option Char
  path : String
  originalPath : Option String
deriving DecidableEq, Repr

structure GitLogEntry where
  objectId : String
  parents : List String
  author : String
  email : String
  authoredAt : String
  subject : String
deriving DecidableEq, Repr

/-! ## Fields -/

/-- Decodes strictly so lossy replacement cannot merge two paths. -/
def textField (field : List UInt8) : Except GitError String :=
  if field.contains 0 then .error .parse
  else
    match fromUtf8 field with
    | some text => .ok text
    | none => .error .parse

/-- `slice::splitn`: not more than `n` pieces, the last of them with all the rest. -/
def splitn (sep : UInt8) : ℕ → List UInt8 → List (List UInt8)
  | 0, _ => []
  | 1, bytes => [bytes]
  | n + 2, bytes =>
    match bytes.dropWhile (· != sep) with
    | [] => [bytes]
    | _ :: rest => bytes.takeWhile (· != sep) :: splitn sep (n + 1) rest

/-- Splits fixed porcelain fields while preserving spaces in the final path. -/
def splitFields (record : List UInt8) (expected : ℕ) : Except GitError (List String) := do
  let fields ← (splitn 0x20 expected record).mapM textField
  if fields.length ≠ expected then .error .parse
  else if fields.head?.all String.isEmpty then .error .parse
  else .ok fields

/-! ## The status -/

/-- Charges every record before its entry is exposed. -/
def chargeStatusRecords (count additional maxRecords : ℕ) : Except GitError ℕ :=
  if maxRecords < count + additional then .error .parse else .ok (count + additional)

/-- The two letters of a status. -/
def statusLetters (field : String) : Except GitError (Char × Char) :=
  match asBytes field with
  | [index, worktree] => .ok (Char.ofNat index.toNat, Char.ofNat worktree.toNat)
  | _ => .error .parse

/-- A record with a status: its fields are counted, and the last one is the path. -/
def statusRecord (kind : GitStatusKind) (record : List UInt8) (expected : ℕ) :
    Except GitError GitStatusEntry := do
  let fields ← splitFields record expected
  let letters ← statusLetters (fields.getD 1 "")
  .ok ⟨kind, some letters.1, some letters.2, fields.getD (expected - 1) "", none⟩

/-- The loop over the records; a rename takes the next record as its original path. -/
def statusRecords (maxRecords : ℕ) :
    List (List UInt8) → ℕ → List GitStatusEntry → Except GitError (List GitStatusEntry)
  | [], _, result => .ok result
  | [] :: records, count, result => statusRecords maxRecords records count result
  | (first :: tail) :: records, count, result => do
    let count ← chargeStatusRecords count 1 maxRecords
    if first = 0x23 then
      let path ← textField (first :: tail)
      statusRecords maxRecords records count (result ++ [⟨.head, none, none, path, none⟩])
    else if first = 0x31 then
      let entry ← statusRecord .changed (first :: tail) 9
      statusRecords maxRecords records count (result ++ [entry])
    else if first = 0x32 then
      let entry ← statusRecord .renamed (first :: tail) 10
      match records with
      | [] => .error .parse
      | original :: records =>
        let count ← chargeStatusRecords count 1 maxRecords
        let originalPath ← textField original
        statusRecords maxRecords records count
          (result ++ [{ entry with originalPath := some originalPath }])
    else if first = 0x75 then
      let entry ← statusRecord .unmerged (first :: tail) 11
      statusRecords maxRecords records count (result ++ [entry])
    else if first = 0x3F || first = 0x21 then
      match tail with
      | [] => .error .parse
      | _ :: path =>
        let path ← textField path
        statusRecords maxRecords records count
          (result ++ [⟨if first = 0x3F then .untracked else .ignored, none, none, path, none⟩])
    else .error .parse

/-- Parses porcelain-v2 `-z` without interpreting filenames. -/
def parseStatus (bytes : List UInt8) (maxRecords : ℕ) : Except GitError (List GitStatusEntry) :=
  if maxRecords = 0 then .error .parse else statusRecords maxRecords (bytes.splitOn 0) 0 []

/-! ## The log -/

/-- `str::split_whitespace`: the pieces between whitespace that are not empty. -/
def splitWhitespace (text : String) : List String :=
  ((text.toList.splitOnP isWhitespace).filter (· ≠ [])).map String.ofList

/-- `slice::strip_suffix` of one byte. -/
def stripSuffix (last : UInt8) (bytes : List UInt8) : List UInt8 :=
  if bytes.getLast? = some last then bytes.dropLast else bytes

/-- `slice::chunks_exact(6)`. -/
def logEntries : List String → List GitLogEntry
  | objectId :: parents :: author :: email :: authoredAt :: subject :: rest =>
    ⟨objectId, splitWhitespace parents, author, email, authoredAt, subject⟩ :: logEntries rest
  | _ => []

/-- Parses the fixed six-field NUL-delimited log format. -/
def parseLog (bytes : List UInt8) : Except GitError (List GitLogEntry) := do
  let payload := stripSuffix 0x0D (stripSuffix 0x0A bytes)
  let fields ← (payload.splitOn 0).mapM textField
  let fields := if fields.getLast?.any String.isEmpty then fields.dropLast else fields
  if fields.length % 6 ≠ 0 then .error .parse else .ok (logEntries fields)

end JaDesktop.GitRead
