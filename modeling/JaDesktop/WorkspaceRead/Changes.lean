import JaDesktop.WorkspaceRead.Model

/-!
# The polling change detector

The detector keeps the revision of every entry at its last complete scan.  A poll compares this
baseline with a new scan and reports the differences; a rescan replaces the baseline.  What a scan
of the file system finds is an argument here, as is the clock: an instant is its distance in
nanoseconds from a fixed start.
-/

namespace JaDesktop.WorkspaceRead

/-- Limits of the frequency of polls and of the size of a scan. -/
structure PollingPolicy where
  minIntervalMillis : ℕ
  maxDepth : ℕ
  maxEntries : ℕ
  maxChanges : ℕ
  hashLimitBytes : ℕ
  maxTotalBytes : ℕ
  maxScanMillis : ℕ
deriving DecidableEq, Repr

def PollingPolicy.default : PollingPolicy where
  minIntervalMillis := 250
  maxDepth := 64
  maxEntries := 100000
  maxChanges := 2000
  hashLimitBytes := 1024 * 1024
  maxTotalBytes := 256 * 1024 * 1024
  maxScanMillis := 2000

/-- `Ord::clamp`. -/
def clamp (n low high : ℕ) : ℕ := max low (min n high)

/-- The policy that a detector works with. -/
def PollingPolicy.bounded (policy : PollingPolicy) : PollingPolicy where
  minIntervalMillis := clamp policy.minIntervalMillis 1 60000
  maxDepth := min policy.maxDepth 256
  maxEntries := clamp policy.maxEntries 1 1000000
  maxChanges := clamp policy.maxChanges 1 100000
  hashLimitBytes := min policy.hashLimitBytes (16 * 1024 * 1024)
  maxTotalBytes := min policy.maxTotalBytes (2 * 1024 * 1024 * 1024)
  maxScanMillis := clamp policy.maxScanMillis 1 60000

/-- Describes why a polling result may not be treated as a complete snapshot. -/
inductive PollState
  | notDue
  | updated
  | overflow
deriving DecidableEq, Repr

inductive ChangeKind
  | created
  | modified
  | deleted
  | replaced
deriving DecidableEq, Repr

/-- A relative path with its old and new revision. -/
structure ChangeRecord where
  relativePath : String
  kind : ChangeKind
  previous : Option FileRevision
  current : Option FileRevision
deriving DecidableEq, Repr

structure ChangeBatch where
  state : PollState
  generation : ℕ
  changes : List ChangeRecord
  requiresRescan : Bool
deriving DecidableEq, Repr

/-- The revision of every entry below the root, under its relative path. -/
abbrev Snapshot := OrderedMap String FileRevision

/-- What a scan of the workspace found before it stopped. -/
structure ScanResult where
  snapshot : Snapshot
  overflow : Bool
deriving DecidableEq

structure PollingChangeDetector where
  policy : PollingPolicy
  snapshot : Snapshot
  lastPoll : Option ℕ
  generation : ℕ
deriving DecidableEq

/-! ## The comparison of two snapshots -/

/-- What happened to an entry, if anything. -/
def changeKind : Option FileRevision → Option FileRevision → Option ChangeKind
  | none, some _ => some .created
  | some _, none => some .deleted
  | some old, some new =>
    if old ≠ new then
      if old.size = new.size ∧ old.modifiedUnixMillis = new.modifiedUnixMillis then some .replaced
      else some .modified
    else none
  | none, none => none

/-- The loop over the paths, which stops when there are enough records. -/
def diffPaths (previous current : Snapshot) (maxChanges : ℕ) :
    List String → List ChangeRecord → List ChangeRecord
  | [], changes => changes
  | path :: paths, changes =>
    if maxChanges ≤ changes.length then changes
    else
      match changeKind (previous.get path) (current.get path) with
      | some kind =>
        diffPaths previous current maxChanges paths
          (changes ++ [⟨path, kind, previous.get path, current.get path⟩])
      | none => diffPaths previous current maxChanges paths changes

/-- Deterministic create, modify and delete records, not more than `maxChanges` of them. -/
def diffSnapshots (previous current : Snapshot) (maxChanges : ℕ) : List ChangeRecord :=
  diffPaths previous current maxChanges (OrderedMap.ofKeys (previous.keys ++ current.keys)).keys []

/-! ## Polls and rescans -/

/-- `u64::MAX`. -/
def u64Max : ℕ := 18446744073709551615

namespace PollingChangeDetector

/-- `u64::saturating_add(1)`. -/
def nextGeneration (generation : ℕ) : ℕ := min (generation + 1) u64Max

/-- A detector starts from the result of one bounded scan. -/
def new (policy : PollingPolicy) (scan : Except WorkspaceError ScanResult) :
    Except WorkspaceError PollingChangeDetector :=
  match scan with
  | .error error => .error error
  | .ok scan =>
    if scan.overflow then .error .entryBudgetExceeded
    else .ok ⟨policy.bounded, scan.snapshot, none, 0⟩

variable (d : PollingChangeDetector)

/-- A scan that did not end leaves the baseline alone and asks for a rescan. -/
def incomplete :
    Except WorkspaceError ChangeBatch × PollingChangeDetector :=
  let generation := nextGeneration d.generation
  (.ok ⟨.overflow, generation, [], true⟩, { d with generation := generation })

/-- The last poll was less than the interval ago. -/
def notDue (now : ℕ) : Bool :=
  d.lastPoll.any fun last => now - last < d.policy.minIntervalMillis * 1000000

/-- A poll at an instant, with what its scan would give. -/
def poll (now : ℕ) (scan : Except WorkspaceError ScanResult) :
    Except WorkspaceError ChangeBatch × PollingChangeDetector :=
  if d.notDue now then (.ok ⟨.notDue, d.generation, [], false⟩, d)
  else
    let d := { d with lastPoll := some now }
    match scan with
    | .error .scanDeadlineExceeded => d.incomplete
    | .error error => (.error error, d)
    | .ok scan =>
      if scan.overflow then d.incomplete
      else
        let generation := nextGeneration d.generation
        let changes := diffSnapshots d.snapshot scan.snapshot d.policy.maxChanges
        let overflow := decide (d.policy.maxChanges ≤ changes.length)
        (.ok ⟨if overflow then .overflow else .updated, generation, changes, overflow⟩,
          { d with generation := generation, snapshot := scan.snapshot })

/-- A rescan whose scan ends at an instant. -/
def rescan (finished : ℕ) (scan : Except WorkspaceError ScanResult) :
    Except WorkspaceError ChangeBatch × PollingChangeDetector :=
  match scan with
  | .error .scanDeadlineExceeded => d.incomplete
  | .error error => (.error error, d)
  | .ok scan =>
    if scan.overflow then d.incomplete
    else
      let generation := nextGeneration d.generation
      (.ok ⟨.updated, generation, [], false⟩,
        { d with generation := generation, snapshot := scan.snapshot, lastPoll := some finished })

end PollingChangeDetector

/-! ## What the records say -/

/-- The record of a path, if its revisions differ. -/
def changeRecord (previous current : Snapshot) (path : String) : Option ChangeRecord :=
  (changeKind (previous.get path) (current.get path)).map fun kind =>
    ⟨path, kind, previous.get path, current.get path⟩

section Records

variable {previous current : Snapshot} {maxChanges : ℕ} {path : String} {record : ChangeRecord}

lemma changeKind_eq_none_iff {old new : Option FileRevision} :
    changeKind old new = none ↔ old = new := by
  cases old with
  | none => cases new <;> simp [changeKind]
  | some old =>
    cases new with
    | none => simp [changeKind]
    | some new =>
      simp only [changeKind]
      split_ifs with hne hsame
      · simp [hne]
      · simp [hne]
      · simpa using hne

lemma changeRecord_eq_none_iff :
    changeRecord previous current path = none ↔ previous.get path = current.get path := by
  rw [changeRecord, Option.map_eq_none_iff, changeKind_eq_none_iff]

lemma changeRecord_eq_some (h : changeRecord previous current path = some record) :
    record.relativePath = path ∧ record.previous = previous.get path ∧
      record.current = current.get path := by
  obtain ⟨kind, -, rfl⟩ := Option.map_eq_some_iff.mp h
  exact ⟨rfl, rfl, rfl⟩

lemma diffPaths_eq_take (paths : List String) {changes : List ChangeRecord}
    (hlength : changes.length ≤ maxChanges) :
    diffPaths previous current maxChanges paths changes =
      (changes ++ paths.filterMap (changeRecord previous current)).take maxChanges := by
  induction paths generalizing changes with
  | nil => simp [diffPaths, List.take_of_length_le hlength]
  | cons path paths ih =>
    rw [diffPaths]
    split_ifs with hfull
    · rw [List.take_append_of_le_length hfull, List.take_of_length_le hlength]
    · cases hkind : changeKind (previous.get path) (current.get path) with
      | none => simp [ih hlength, changeRecord, hkind]
      | some kind =>
        have hnext : (changes ++ [(⟨path, kind, previous.get path, current.get path⟩ :
            ChangeRecord)]).length ≤ maxChanges := by
          simp only [List.length_append, List.length_singleton]
          omega
        simp [ih hnext, changeRecord, hkind]

/-- All the differences of two snapshots, in the order of their paths. -/
def allChanges (previous current : Snapshot) : List ChangeRecord :=
  (OrderedMap.ofKeys (previous.keys ++ current.keys)).keys.filterMap (changeRecord previous current)

theorem diffSnapshots_eq_take (previous current : Snapshot) (maxChanges : ℕ) :
    diffSnapshots previous current maxChanges = (allChanges previous current).take maxChanges := by
  rw [diffSnapshots, diffPaths_eq_take _ (Nat.zero_le maxChanges), List.nil_append, allChanges]

lemma mem_allChanges :
    record ∈ allChanges previous current ↔
      changeRecord previous current record.relativePath = some record := by
  rw [allChanges, List.mem_filterMap]
  constructor
  · rintro ⟨path, -, hpath⟩
    rw [(changeRecord_eq_some hpath).1, hpath]
  · intro h
    refine ⟨record.relativePath, ?_, h⟩
    rw [OrderedMap.mem_keys_ofKeys, List.mem_append, OrderedMap.mem_keys_iff,
      OrderedMap.mem_keys_iff]
    by_contra hnone
    rw [not_or, not_not, not_not] at hnone
    have hsame := changeRecord_eq_none_iff.mpr (hnone.1.trans hnone.2.symm)
    rw [h] at hsame
    cases hsame

lemma allChanges_pairwise (previous current : Snapshot) :
    ((allChanges previous current).map ChangeRecord.relativePath).Pairwise (· < ·) := by
  rw [allChanges, List.map_filterMap]
  refine List.Pairwise.filterMap _ ?_ (OrderedMap.keys_pairwise _)
  intro path path' hlt p hp p' hp'
  obtain ⟨record, hrecord, rfl⟩ := Option.map_eq_some_iff.mp hp
  obtain ⟨record', hrecord', rfl⟩ := Option.map_eq_some_iff.mp hp'
  rwa [(changeRecord_eq_some hrecord).1, (changeRecord_eq_some hrecord').1]

lemma diffSnapshots_pairwise (previous current : Snapshot) (maxChanges : ℕ) :
    ((diffSnapshots previous current maxChanges).map ChangeRecord.relativePath).Pairwise
      (· < ·) := by
  rw [diffSnapshots_eq_take, List.map_take]
  exact (allChanges_pairwise previous current).sublist (List.take_sublist _ _)

lemma length_diffSnapshots_le (previous current : Snapshot) (maxChanges : ℕ) :
    (diffSnapshots previous current maxChanges).length ≤ maxChanges := by
  rw [diffSnapshots_eq_take]
  exact List.length_take_le _ _

lemma diffSnapshots_eq_allChanges
    (h : (diffSnapshots previous current maxChanges).length < maxChanges) :
    diffSnapshots previous current maxChanges = allChanges previous current := by
  rw [diffSnapshots_eq_take, List.length_take] at h
  rw [diffSnapshots_eq_take, List.take_of_length_le (by omega)]

lemma exists_mem_allChanges (h : previous.get path ≠ current.get path) :
    ∃ record ∈ allChanges previous current, record.relativePath = path := by
  cases hrecord : changeRecord previous current path with
  | none => exact absurd (changeRecord_eq_none_iff.mp hrecord) h
  | some record =>
    have hpath := (changeRecord_eq_some hrecord).1
    exact ⟨record, mem_allChanges.mpr (hpath ▸ hrecord), hpath⟩

lemma difference_of_mem_diffSnapshots (h : record ∈ diffSnapshots previous current maxChanges) :
    record.previous = previous.get record.relativePath ∧
      record.current = current.get record.relativePath ∧ record.previous ≠ record.current := by
  rw [diffSnapshots_eq_take] at h
  have hrecord := mem_allChanges.mp (List.mem_of_mem_take h)
  obtain ⟨-, hprevious, hcurrent⟩ := changeRecord_eq_some hrecord
  refine ⟨hprevious, hcurrent, fun hsame => ?_⟩
  rw [hprevious, hcurrent] at hsame
  rw [changeRecord_eq_none_iff.mpr hsame] at hrecord
  cases hrecord

end Records

/-! ## Replaying the records -/

/-- Apply the records of a batch one after the other. -/
def replay (changes : List ChangeRecord) (view : Snapshot) : Snapshot :=
  view.writeAll (changes.map fun record => (record.relativePath, record.current))

/-- All the differences, applied to the first snapshot, give the second. -/
theorem replay_allChanges (previous current : Snapshot) :
    replay (allChanges previous current) previous = current := by
  set writes := (allChanges previous current).map fun r => (r.relativePath, r.current) with hwrites
  have hkeys : (writes.map Prod.fst).Nodup := by
    rw [hwrites, List.map_map]
    exact (allChanges_pairwise previous current).imp fun hlt => ne_of_lt hlt
  refine OrderedMap.ext fun path => ?_
  rw [replay, ← hwrites, OrderedMap.get_writeAll hkeys]
  cases hrecord : changeRecord previous current path with
  | none =>
    have hnone : SortedMap.get path writes = none := by
      rw [SortedMap.get_eq_none_iff, hwrites, List.map_map, List.mem_map]
      rintro ⟨record, hmem, rfl⟩
      have hsome := mem_allChanges.mp hmem
      simp only [Function.comp_apply] at hrecord
      rw [hrecord] at hsome
      cases hsome
    rw [hnone]
    exact changeRecord_eq_none_iff.mp hrecord
  | some record =>
    obtain ⟨hpath, -, hcurrent⟩ := changeRecord_eq_some hrecord
    have hmem : record ∈ allChanges previous current := mem_allChanges.mpr (hpath ▸ hrecord)
    have hget : SortedMap.get path writes = some record.current :=
      SortedMap.get_of_mem hkeys (List.mem_map.mpr ⟨record, hmem, by rw [hpath]⟩)
    rw [hget, hcurrent]
    rfl

end JaDesktop.WorkspaceRead
