import JaDesktop.Lib.AssocMap
import JaDesktop.Lib.Encoder
import JaDesktop.Sidecar.EventNormalizerPolicy
import Mathlib.Data.Finset.Basic
import Mathlib.Data.List.Sort

/-!
# The sources of skills

The built-in, the user and the workspace repository are read anew at every call.  A skill is
selected by its revision, the digest of its source, name and contents; what is kept of a selection
is the set of the names of the chosen skills.
-/

namespace JaDesktop.Skills

open JaDesktop.Sidecar

/-! ## What a repository gives -/

/-- Product source labels, in the order in which they are read. -/
inductive Source
  | builtin
  | user
  | workspace
deriving DecidableEq, Repr

/-- The stable source label. -/
def Source.wireName : Source → JavaString
  | builtin => java "builtin"
  | user => java "user"
  | workspace => java "workspace"

/-- `AgentSkill`; the metadata are given as a tree. -/
structure AgentSkill where
  name : Option JavaString
  description : Option JavaString
  metadata : ObjectNode
  skillContent : Option JavaString
  resources : AssocMap JavaString (Option JavaString)

structure SkillResources where
  list : List JavaString
  read : JavaString → Option JavaString
  readBinary : JavaString → Option (List UInt8)

/-- A repository: the listing may throw, and the resources may be read lazily. -/
structure AgentSkillRepository where
  getAllSkills : Option (List (Option AgentSkill))
  resourcesFor : Option (JavaString → SkillResources)

/-- What the three sources have at the moment. -/
structure Content where
  builtin : AgentSkillRepository
  user : Option AgentSkillRepository
  workspace : Option AgentSkillRepository

/-- SHA-256 and the writer of JSON. -/
structure Externals where
  sha256 : Sha256
  writeValueAsString : JsonNode → Option JavaString

/-- `IllegalArgumentException`, `IllegalStateException`. -/
inductive SkillFailure
  | illegalArgument (message : String)
  | illegalState (message : String)
deriving DecidableEq

/-! ## Revisions -/

/-- The value of a digit of Base64. -/
def sextet (u : UInt16) : Option ℕ :=
  if 0x41 ≤ u ∧ u ≤ 0x5A then some (u.toNat - 0x41)
  else if 0x61 ≤ u ∧ u ≤ 0x7A then some (u.toNat - 0x61 + 26)
  else if 0x30 ≤ u ∧ u ≤ 0x39 then some (u.toNat - 0x30 + 52)
  else if u = 0x2B then some 62
  else if u = 0x2F then some 63
  else none

/-- The first `n` bytes of a group of four digits. -/
def groupBytes (n : ℕ) (a b c d : UInt16) : Option (List UInt8) :=
  match sextet a, sextet b, sextet c, sextet d with
  | some a, some b, some c, some d =>
    let bits := ((a * 64 + b) * 64 + c) * 64 + d
    some ([bits / 65536, bits / 256, bits].map UInt8.ofNat |>.take n)
  | _, _, _, _ => none

/-- `Base64.getDecoder().decode`; the padding of the last group may be missing. -/
def base64Decode : JavaString → Option (List UInt8)
  | [] => some []
  | [_] => none
  | [a, b] => groupBytes 1 a b 0x41 0x41
  | [a, b, c] => groupBytes 2 a b c 0x41
  | a :: b :: c :: d :: rest =>
    if c = 0x3D then if d = 0x3D ∧ rest = [] then groupBytes 1 a b 0x41 0x41 else none
    else if d = 0x3D then if rest = [] then groupBytes 2 a b c 0x41 else none
    else
      match groupBytes 3 a b c d, base64Decode rest with
      | some bytes, some more => some (bytes ++ more)
      | _, _ => none

/-- `String.compareTo` is not positive. -/
def compareTo : JavaString → JavaString → Bool
  | [], _ => true
  | _ :: _, [] => false
  | u :: s, v :: t => u < v || (u == v && compareTo s t)

def base64Head : JavaString := java "base64:"

/-- What is recorded of a resource: its text and its bytes. -/
structure ResourceSnapshot where
  text : AssocMap JavaString JavaString
  bytes : AssocMap JavaString (List UInt8)

/-- Snapshots the declared resources; a text that is no Base64 throws. -/
def snapshotDeclaredResources :
    List (JavaString × Option JavaString) → ResourceSnapshot → Option ResourceSnapshot
  | [], snapshot => some snapshot
  | (_, none) :: rest, snapshot => snapshotDeclaredResources rest snapshot
  | (path, some value) :: rest, snapshot =>
    if base64Head.isPrefixOf value then
      match base64Decode (value.drop base64Head.length) with
      | some bytes =>
        snapshotDeclaredResources rest { snapshot with bytes := snapshot.bytes.insert path bytes }
      | none => none
    else
      snapshotDeclaredResources rest
        ⟨snapshot.text.insert path value, snapshot.bytes.insert path (getBytes value)⟩

/-- One path of the loop over lazily read resources. -/
def materializePath (declared : AssocMap JavaString (Option JavaString))
    (resources : SkillResources) (snapshot : ResourceSnapshot) (path : JavaString) :
    Option ResourceSnapshot := do
  let text := match resources.read path with
    | some value => snapshot.text.insert path value
    | none => snapshot.text
  let binary := match resources.readBinary path with
    | some value => snapshot.bytes.insert path value
    | none => snapshot.bytes
  let declaredValue := (declared.lookup path).join
  let binary ←
    match declaredValue with
    | some value =>
      if (binary.lookup path).isNone && base64Head.isPrefixOf value then
        (base64Decode (value.drop base64Head.length)).map fun bytes => binary.insert path bytes
      else some binary
    | none => some binary
  let text := match declaredValue with
    | some value =>
      if (text.lookup path).isNone && !base64Head.isPrefixOf value then text.insert path value
      else text
    | none => text
  let binary := match binary.lookup path, text.lookup path with
    | none, some value => binary.insert path (getBytes value)
    | _, _ => binary
  some ⟨text, binary⟩

/-- The resources of a skill, read when the repository is lazy. -/
def materialize (repository : AgentSkillRepository) (name : JavaString) (skill : AgentSkill) :
    Option ResourceSnapshot :=
  match repository.resourcesFor with
  | none => snapshotDeclaredResources (skill.resources.entries.map fun e => (e.1, e.2)) ⟨∅, ∅⟩
  | some resourcesFor =>
    let resources := resourcesFor name
    let paths := (skill.resources.keys ++ resources.list).eraseDups.insertionSort
      fun a b => compareTo a b = true
    paths.foldlM (materializePath skill.resources resources) ⟨∅, ∅⟩

mutual

/-- Recursively sorts object keys; the order of an array is kept. -/
def sortNode : JsonNode → JsonNode
  | .array items => .array (sortItems items)
  | .object members =>
    .object ((sortMembers members).insertionSort fun a b => compareTo a.1 b.1 = true)
  | node => node

def sortItems : List JsonNode → List JsonNode
  | [] => []
  | item :: items => sortNode item :: sortItems items

def sortMembers : List (JavaString × JsonNode) → List (JavaString × JsonNode)
  | [] => []
  | (name, value) :: members => (name, sortNode value) :: sortMembers members

end

/-- `ByteBuffer.putInt`. -/
def putInt (n : ℕ) : List UInt8 := [n / 16777216, n / 65536, n / 256, n].map UInt8.ofNat

/-- Frames bytes by their length. -/
def framed (bytes : List UInt8) : List UInt8 := putInt bytes.length ++ bytes

/-- `append` of a text; a missing one is written as `null`. -/
def framedText (value : Option JavaString) : List UInt8 :=
  framed (getBytes (value.getD (java "null")))

/-- Calculates the revision from source, name, metadata, text and resources. -/
def revision (ext : Externals) (source : Source) (skill : AgentSkill)
    (resources : ResourceSnapshot) : Option JavaString := do
  let metadata ← ext.writeValueAsString (sortNode (.object skill.metadata))
  let entries := resources.bytes.entries.insertionSort fun a b => compareTo a.1 b.1 = true
  let digested := framedText (some source.wireName) ++ framedText skill.name ++
    framedText (some metadata) ++ framedText skill.skillContent ++
    entries.flatMap fun entry => framedText (some entry.1) ++ framed entry.2
  some (java "skill_" ++ (ext.sha256 digested).val.flatMap EventNormalizerPolicy.hexByte)

/-! ## Candidates -/

/-- A skill with its source and its revision. -/
structure Candidate where
  source : Source
  name : JavaString
  description : Option JavaString
  revision : JavaString
deriving DecidableEq

/-- The candidate of a listed skill; none for a skill without a name. -/
def candidate (ext : Externals) (source : Source) (repository : AgentSkillRepository)
    (skill : Option AgentSkill) : Option (List Candidate) :=
  match skill with
  | none => some []
  | some skill =>
    match skill.name with
    | none => some []
    | some name =>
      if isBlank name then some []
      else do
        let resources ← materialize repository name skill
        let revision ← revision ext source skill resources
        some [⟨source, name, skill.description, revision⟩]

/-- The candidates of one source. -/
def sourceCandidates (ext : Externals) (source : Source) (repository : AgentSkillRepository) :
    Option (List Candidate) := do
  let skills ← repository.getAllSkills
  let found ← skills.mapM (candidate ext source repository)
  some found.flatten

/-- Reads all the skills of the three sources. -/
def candidates (ext : Externals) (content : Content) : Except SkillFailure (List Candidate) :=
  let sources : List (Source × AgentSkillRepository) :=
    [(.builtin, content.builtin)] ++ (content.user.map fun r => (.user, r)).toList ++
      (content.workspace.map fun r => (.workspace, r)).toList
  match sources.mapM fun entry => sourceCandidates ext entry.1 entry.2 with
  | some found => .ok found.flatten
  | none => .error (.illegalArgument "SKILL_INVALID")

/-! ## Rows -/

/-- Metadata-only row. -/
structure SkillView where
  source : Source
  revision : JavaString
  name : JavaString
  description : JavaString
  enabled : Bool
  status : String
  contentHash : JavaString
deriving DecidableEq

/-- The form of a revision. -/
def revisionMatches (revision : JavaString) : Bool := matchesHeadTail "skill_" revision

/-- Sixty-four hexadecimal digits. -/
def isContentHash (s : JavaString) : Bool :=
  s.length == 64 && s.all fun u =>
    (0x41 ≤ u && u ≤ 0x46) || (0x61 ≤ u && u ≤ 0x66) || (0x30 ≤ u && u ≤ 0x39)

/-- The checks of the row. -/
def SkillView.create (view : SkillView) : Except SkillFailure SkillView :=
  if !revisionMatches view.revision then .error (.illegalArgument "skill_revision_invalid")
  else if isBlank view.name || view.name.contains 0 then
    .error (.illegalArgument "skill_name_required")
  else if !isContentHash view.contentHash then .error (.illegalArgument "skill_hash_invalid")
  else .ok view

/-- The row of a candidate. -/
def view (c : Candidate) (enabled : Bool) : Except SkillFailure SkillView :=
  SkillView.create
    { source := c.source
      revision := c.revision
      name := c.name
      description := c.description.getD []
      enabled := enabled
      status := if enabled then "healthy" else "disabled"
      contentHash := c.revision.drop (java "skill_").length }

/-! ## Selections -/

/-- `SkillFilter` of AgentScope. -/
structure SkillFilters where
  Filter : Type
  all : Filter
  none : Filter
  only : List JavaString → Filter
  isAllowed : Filter → JavaString → Bool

/-- What the filters are documented to allow. -/
structure SkillFilters.Documented (api : SkillFilters) : Prop where
  all_allows : ∀ name, api.isAllowed api.all name = true
  none_allows : ∀ name, api.isAllowed api.none name = false
  only_allows : ∀ names name, api.isAllowed (api.only names) name = true ↔ name ∈ names

structure JaSkillSources where
  enabledNames : Finset JavaString
  activated : Bool
  closed : Bool
deriving DecidableEq

namespace JaSkillSources

/-- The sources as they are opened. -/
def opened : JaSkillSources := ⟨∅, false, false⟩

def ensureOpen (s : JaSkillSources) : Except SkillFailure Unit :=
  if s.closed then .error (.illegalState "skill_sources_closed") else .ok ()

/-- Built in, or selected by its own revision. -/
def chosen (selected : List JavaString) (c : Candidate) : Bool :=
  c.source == .builtin || selected.contains c.revision

variable (ext : Externals)

/-- Activates selected revisions; the second activation does nothing. -/
def freeze (content : Content) (s : JaSkillSources)
    (selectedRevisions : Option (List JavaString)) : Except SkillFailure JaSkillSources := do
  s.ensureOpen
  if s.activated then .ok s
  else
    let candidates ← candidates ext content
    let byRevision : AssocMap JavaString Candidate :=
      candidates.foldl (fun m c => m.insert c.revision c) ∅
    let selected := selectedRevisions.getD []
    if selected.any fun revision =>
        !revisionMatches revision || (byRevision.lookup revision).isNone then
      .error (.illegalArgument "SKILL_UNAVAILABLE")
    else
      .ok { s with
        enabledNames := ((candidates.filter (chosen selected)).map Candidate.name).toFinset
        activated := true }

/-- Delegates selected-name evaluation to the filters. -/
def selectedFilter (api : SkillFilters) (content : Content)
    (s : JaSkillSources) : Except SkillFailure api.Filter := do
  let candidates ← candidates ext content
  let names := ((candidates.map Candidate.name).filter fun n => n ∈ s.enabledNames).eraseDups
  .ok (if names = [] then api.none else api.only names)

/-- Returns the filter for the current generation. -/
def skillFilter (api : SkillFilters) (content : Content) (s : JaSkillSources) :
    Except SkillFailure api.Filter := do
  s.ensureOpen
  if s.activated then s.selectedFilter ext api content else .ok api.all

/-- Projects current metadata. -/
def projection (content : Content) (s : JaSkillSources) :
    Except SkillFailure (List SkillView) := do
  s.ensureOpen
  let candidates ← candidates ext content
  candidates.mapM fun c => view c (!s.activated || decide (c.name ∈ s.enabledNames))

/-- Projects a selection without regard to the activated one. -/
def projectionFor (content : Content) (s : JaSkillSources)
    (selectedRevisions : Option (List JavaString)) : Except SkillFailure (List SkillView) := do
  s.ensureOpen
  let selected := selectedRevisions.getD []
  let candidates ← candidates ext content
  candidates.mapM fun c => view c (chosen selected c)

end JaSkillSources

end JaDesktop.Skills
