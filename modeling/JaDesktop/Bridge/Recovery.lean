import JaDesktop.Lib.Interrupted
import JaDesktop.Lib.Outcomes

/-!
# The recovery directory

`config.rs` keeps a marker in a private directory when a process had to be left behind.  The marker
blocks every start until the user has confirmed that the process is gone; the confirmation is first
written beside the marker as an acknowledgement, then the marker and the acknowledgement are
removed.  Files are written to a temporary name and moved into place.

Files hold what `serde_json` reads from them, or are torn.  `Uuid::parse_str` is a parameter.
-/

namespace JaDesktop.Bridge

inductive ManualRecoveryReason
  | systemRestarted
  | externallyCleaned
deriving DecidableEq

structure ManualRecoveryConfirmation where
  recoveryId : String
  revision : ℕ
  reason : ManualRecoveryReason
deriving DecidableEq

structure RuntimeRecoveryState where
  required : Bool
  acknowledgeable : Bool
  recoveryId : Option String
  revision : Option ℕ
deriving DecidableEq

/-- `RecoveryMarker`; its status has one value. -/
structure RecoveryMarker where
  schemaVersion : ℕ
  recoveryId : String
  revision : ℕ
  generation : ℕ
deriving DecidableEq

/-- `RecoveryAcknowledgement`; its status has one value. -/
structure RecoveryAcknowledgement where
  schemaVersion : ℕ
  recoveryId : String
  revision : ℕ
  reason : ManualRecoveryReason
deriving DecidableEq

/-- The two errors that `RuntimeCommandError` has for the recovery. -/
inductive RecoveryError
  | recoveryRequired
  | recoveryStale
deriving DecidableEq

/-- What stands at a path; a torn file is one that `serde_json` cannot read. -/
inductive RecoveryFile (α : Type)
  | absent
  | torn
  | record (content : α)
deriving DecidableEq

/-- A file under a temporary name. -/
inductive RecoveryTemp
  | marker (content : RecoveryFile RecoveryMarker)
  | ack (content : RecoveryFile RecoveryAcknowledgement)
deriving DecidableEq

/-- The private directory; the youngest temporary file comes first. -/
structure RunDir where
  marker : RecoveryFile RecoveryMarker
  ack : RecoveryFile RecoveryAcknowledgement
  temps : List RecoveryTemp
deriving DecidableEq

/-! ## Reading -/

def recoverySchemaVersion : ℕ := 2

variable (isUuid : String → Bool)

def parseRecoveryMarker (marker : RecoveryMarker) :
    Except RecoveryError RecoveryMarker :=
  if marker.schemaVersion ≠ recoverySchemaVersion ∨ marker.revision = 0 ∨
      isUuid marker.recoveryId = false then
    .error .recoveryRequired
  else .ok marker

def parseRecoveryAck (acknowledgement : RecoveryAcknowledgement) :
    Except RecoveryError RecoveryAcknowledgement :=
  if acknowledgement.schemaVersion ≠ recoverySchemaVersion ∨
      isUuid acknowledgement.recoveryId = false ∨ acknowledgement.revision = 0 then
    .error .recoveryRequired
  else .ok acknowledgement

/-- `read_recovery_bytes` and the parser of the file after it. -/
def RecoveryFile.read {α : Type} (parse : α → Except RecoveryError α) :
    RecoveryFile α → Except RecoveryError (Option α)
  | .absent => .ok none
  | .torn => .error .recoveryRequired
  | .record content => (parse content).map some

def readRecoveryMarker (dir : RunDir) :
    Except RecoveryError (Option RecoveryMarker) :=
  dir.marker.read (parseRecoveryMarker isUuid)

def readRecoveryAck (dir : RunDir) :
    Except RecoveryError (Option RecoveryAcknowledgement) :=
  dir.ack.read (parseRecoveryAck isUuid)

/-- `recovery_projection`, for the identity of a marker or an acknowledgement. -/
def recoveryProjection (recoveryId : String) (revision : ℕ) (acknowledgeable : Bool) :
    RuntimeRecoveryState :=
  ⟨true, acknowledgeable, some recoveryId, some revision⟩

def recoveryState (dir : RunDir) : RuntimeRecoveryState :=
  if dir.temps ≠ [] then ⟨true, false, none, none⟩
  else
    match readRecoveryMarker isUuid dir, readRecoveryAck isUuid dir with
    | .ok (some marker), .ok none => recoveryProjection marker.recoveryId marker.revision true
    | .ok none, .ok (some ack) => recoveryProjection ack.recoveryId ack.revision true
    | .ok (some marker), .ok (some ack) =>
      if marker.recoveryId = ack.recoveryId ∧ marker.revision = ack.revision then
        recoveryProjection marker.recoveryId marker.revision true
      else ⟨true, false, none, none⟩
    | .ok none, .ok none => ⟨false, false, none, none⟩
    | _, _ => ⟨true, false, none, none⟩

def ensureRecoveryClear (dir : RunDir) : Except RecoveryError Unit :=
  reject (recoveryState isUuid dir).required .recoveryRequired

/-! ## Writing -/

/-- The steps of the calls on the directory, each of them atomic. -/
inductive FileStep
  /-- `create_recovery_temp` -/
  | createTemp (temp : RecoveryTemp)
  | writeTemp (temp : RecoveryTemp)
  /-- `atomic_replace` -/
  | replaceTarget
  | syncDirectory
  | removeMarker
  | removeAck
deriving DecidableEq

/-- What a step does. -/
def FileStep.exec (dir : RunDir) : FileStep → RunDir
  | .createTemp temp => { dir with temps := temp :: dir.temps }
  | .writeTemp temp => { dir with temps := temp :: dir.temps.tail }
  | .replaceTarget =>
    match dir.temps with
    | .marker content :: temps => { dir with marker := content, temps := temps }
    | .ack content :: temps => { dir with ack := content, temps := temps }
    | [] => dir
  | .syncDirectory => dir
  | .removeMarker => { dir with marker := .absent }
  | .removeAck => { dir with ack := .absent }

/-- `atomic_write_file`: the temporary file before and after the bytes are written. -/
def atomicWriteFile (created written : RecoveryTemp) : List FileStep :=
  [.createTemp created, .writeTemp written, .replaceTarget, .syncDirectory]

/-- `remove_file_synced`. -/
def RecoveryFile.removeSynced {α : Type} (remove : FileStep) : RecoveryFile α → List FileStep
  | .absent => []
  | _ => [remove, .syncDirectory]

/-- The marker that `persist_recovery_record` writes, under the fresh identity `recoveryId`. -/
def recoveryRecord (recoveryId : String) (attemptId generation : ℕ) : RecoveryMarker :=
  ⟨recoverySchemaVersion, recoveryId, max (max attemptId generation) 1, generation⟩

/-- The identity that a confirmation is compared with: that of the marker, else that of the
acknowledgement. -/
def currentIdentity (marker : Option RecoveryMarker) (ack : Option RecoveryAcknowledgement) :
    Option (String × ℕ) :=
  (marker.map fun value => (value.recoveryId, value.revision)).or
    (ack.map fun value => (value.recoveryId, value.revision))

/-- What `acknowledge_manual_recovery` checks before it writes. -/
def checkConfirmation (confirmation : ManualRecoveryConfirmation)
    (dir : RunDir) : Except RecoveryError Unit := do
  let marker ← readRecoveryMarker isUuid dir
  let pendingAck ← readRecoveryAck isUuid dir
  match currentIdentity marker pendingAck with
  | none => .error .recoveryRequired
  | some (currentId, currentRevision) =>
    if currentId ≠ confirmation.recoveryId ∨ currentRevision ≠ confirmation.revision then
      .error .recoveryStale
    else
      match pendingAck with
      | some pendingAck =>
        reject (pendingAck.recoveryId != confirmation.recoveryId ||
          pendingAck.revision != confirmation.revision) .recoveryStale
      | none => .ok ()

/-- The acknowledgement of a confirmation. -/
def ManualRecoveryConfirmation.acknowledgement (confirmation : ManualRecoveryConfirmation) :
    RecoveryAcknowledgement :=
  ⟨recoverySchemaVersion, confirmation.recoveryId, confirmation.revision, confirmation.reason⟩

/-- The calls. -/
inductive RecoveryCall
  /-- `persist_recovery_record`; `recoveryId` is what `Uuid::new_v4` gives -/
  | persist (recoveryId : String) (attemptId generation : ℕ)
  /-- `clear_recovery_record` -/
  | clear
  /-- `acknowledge_manual_recovery` -/
  | acknowledge (confirmation : ManualRecoveryConfirmation)
deriving DecidableEq

namespace RecoveryCall

/-- The steps of a call, or the error with which it is refused before the first of them. -/
def steps (isUuid : String → Bool) (dir : RunDir) :
    RecoveryCall → Except RecoveryError (List FileStep)
  | .persist recoveryId attemptId generation =>
    .ok (atomicWriteFile (.marker .torn)
      (.marker (.record (recoveryRecord recoveryId attemptId generation))))
  | .clear => .ok (dir.marker.removeSynced .removeMarker)
  | .acknowledge confirmation => do
    checkConfirmation isUuid confirmation dir
    return atomicWriteFile (.ack .torn) (.ack (.record confirmation.acknowledgement)) ++
      dir.marker.removeSynced .removeMarker ++ [.removeAck, .syncDirectory]

/-- The directory that a call leaves when it stops after `n` steps. -/
def stop (isUuid : String → Bool) (call : RecoveryCall) (dir : RunDir) (n : ℕ) : RunDir :=
  match call.steps isUuid dir with
  | .error _ => dir
  | .ok steps => cut FileStep.exec dir steps n

/-- A call that takes all its steps. -/
def complete (isUuid : String → Bool) (call : RecoveryCall) (dir : RunDir) :
    Except RecoveryError Unit × RunDir :=
  match call.steps isUuid dir with
  | .error e => (.error e, dir)
  | .ok steps => (.ok (), steps.foldl FileStep.exec dir)

end RecoveryCall

end JaDesktop.Bridge
