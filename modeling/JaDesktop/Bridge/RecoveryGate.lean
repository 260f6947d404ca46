import JaDesktop.Bridge.Recovery

/-!
# The recovery gate

What the calls of `Bridge.Recovery` keep when each of them can stop between any two of its steps:
the gate stays closed for as long as the marker that was written last is neither removed nor
confirmed, and the confirmation of a marker can be repeated until it has gone through.

A write that stops between the creation of its temporary file and the replacement leaves this file
behind for ever, and with it the gate closed.
-/

namespace JaDesktop.Bridge

variable {isUuid : String → Bool} {confirmation : ManualRecoveryConfirmation} {dir : RunDir}

/-- The marker has the identity that is confirmed. -/
def RecoveryMarker.IsFor (marker : RecoveryMarker) (confirmation : ManualRecoveryConfirmation) :
    Prop :=
  marker.recoveryId = confirmation.recoveryId ∧ marker.revision = confirmation.revision

/-- The acknowledgement has the identity that is confirmed. -/
def RecoveryAcknowledgement.IsFor (ack : RecoveryAcknowledgement)
    (confirmation : ManualRecoveryConfirmation) : Prop :=
  ack.recoveryId = confirmation.recoveryId ∧ ack.revision = confirmation.revision

instance (marker : RecoveryMarker) : Decidable (marker.IsFor confirmation) :=
  inferInstanceAs (Decidable (_ ∧ _))

instance (ack : RecoveryAcknowledgement) : Decidable (ack.IsFor confirmation) :=
  inferInstanceAs (Decidable (_ ∧ _))

/-! ## Reading -/

variable {marker : RecoveryMarker} {steps : List FileStep}

lemma parseRecoveryMarker_eq_ok {marker' : RecoveryMarker} :
    parseRecoveryMarker isUuid marker = .ok marker' ↔
      marker' = marker ∧ marker.schemaVersion = recoverySchemaVersion ∧ marker.revision ≠ 0 ∧
        isUuid marker.recoveryId = true := by
  unfold parseRecoveryMarker
  split_ifs with h
  · simp only [false_iff]
    rintro ⟨-, hschema, hrevision, huuid⟩
    rcases h with h | h | h
    · exact h hschema
    · exact hrevision h
    · rw [huuid] at h
      cases h
  · push Not at h
    rw [Except.ok.injEq, eq_comm]
    simp [h]

lemma parseRecoveryAck_eq_ok {ack ack' : RecoveryAcknowledgement} :
    parseRecoveryAck isUuid ack = .ok ack' ↔
      ack' = ack ∧ ack.schemaVersion = recoverySchemaVersion ∧ isUuid ack.recoveryId = true ∧
        ack.revision ≠ 0 := by
  unfold parseRecoveryAck
  split_ifs with h
  · simp only [false_iff]
    rintro ⟨-, hschema, huuid, hrevision⟩
    rcases h with h | h | h
    · exact h hschema
    · rw [huuid] at h
      cases h
    · exact hrevision h
  · push Not at h
    rw [Except.ok.injEq, eq_comm]
    simp [h]

lemma RecoveryFile.read_eq_none {α : Type} {parse : α → Except RecoveryError α}
    {file : RecoveryFile α} : file.read parse = .ok none ↔ file = .absent := by
  cases file with
  | absent | torn => simp [RecoveryFile.read]
  | record content => simp [RecoveryFile.read, map_eq_ok]

lemma RecoveryFile.read_eq_some {α : Type} {parse : α → Except RecoveryError α}
    (hparse : ∀ a b, parse a = .ok b → b = a) {file : RecoveryFile α} {content : α} :
    file.read parse = .ok (some content) ↔
      file = .record content ∧ parse content = .ok content := by
  cases file with
  | absent | torn => simp [RecoveryFile.read]
  | record a =>
    simp only [RecoveryFile.read, map_eq_ok, Option.some.injEq, RecoveryFile.record.injEq]
    constructor
    · rintro ⟨b, hb, rfl⟩
      obtain rfl := hparse a b hb
      exact ⟨rfl, hb⟩
    · rintro ⟨rfl, h⟩
      exact ⟨a, h, rfl⟩

lemma readRecoveryMarker_eq_some :
    readRecoveryMarker isUuid dir = .ok (some marker) ↔
      dir.marker = .record marker ∧ parseRecoveryMarker isUuid marker = .ok marker :=
  RecoveryFile.read_eq_some fun _ _ h => (parseRecoveryMarker_eq_ok.mp h).1

lemma readRecoveryAck_eq_some {ack : RecoveryAcknowledgement} :
    readRecoveryAck isUuid dir = .ok (some ack) ↔
      dir.ack = .record ack ∧ parseRecoveryAck isUuid ack = .ok ack :=
  RecoveryFile.read_eq_some fun _ _ h => (parseRecoveryAck_eq_ok.mp h).1

/-- **The gate**: it is open exactly for an empty directory. -/
theorem ensureRecoveryClear_eq_ok :
    ensureRecoveryClear isUuid dir = .ok () ↔
      dir.temps = [] ∧ dir.marker = .absent ∧ dir.ack = .absent := by
  rw [ensureRecoveryClear, reject_eq_ok, recoveryState]
  split_ifs with htemps
  · simpa using fun h => absurd h htemps
  · rw [not_not] at htemps
    have hmarker : readRecoveryMarker isUuid dir = .ok none ↔ dir.marker = .absent :=
      RecoveryFile.read_eq_none
    have hack : readRecoveryAck isUuid dir = .ok none ↔ dir.ack = .absent :=
      RecoveryFile.read_eq_none
    rw [← hmarker, ← hack]
    split <;> simp_all [recoveryProjection]
    split_ifs <;> simp

lemma ensureRecoveryClear_eq_error :
    ensureRecoveryClear isUuid dir = .error .recoveryRequired ↔
      ¬ (dir.temps = [] ∧ dir.marker = .absent ∧ dir.ack = .absent) := by
  rw [← @ensureRecoveryClear_eq_ok isUuid, ensureRecoveryClear]
  cases (recoveryState isUuid dir).required <;> simp

/-! ## The confirmation -/

/-- What the directory holds is for the confirmation, and there is something to confirm. -/
structure Answerable (isUuid : String → Bool) (confirmation : ManualRecoveryConfirmation)
    (dir : RunDir) : Prop where
  marker : dir.marker = .absent ∨ ∃ marker, dir.marker = .record marker ∧
    parseRecoveryMarker isUuid marker = .ok marker ∧ marker.IsFor confirmation
  ack : dir.ack = .absent ∨ ∃ ack, dir.ack = .record ack ∧
    parseRecoveryAck isUuid ack = .ok ack ∧ ack.IsFor confirmation
  found : dir.marker = .absent → dir.ack ≠ .absent

theorem checkConfirmation_eq_ok :
    checkConfirmation isUuid confirmation dir = .ok () ↔ Answerable isUuid confirmation dir := by
  unfold checkConfirmation
  rw [bind_eq_ok]
  constructor
  · rintro ⟨marker, hmarker, h⟩
    obtain ⟨ack, hack, h⟩ := bind_eq_ok.mp h
    cases marker with
    | none =>
      have hnone : dir.marker = .absent := RecoveryFile.read_eq_none.mp hmarker
      cases ack with
      | none => cases h
      | some ack =>
        obtain ⟨hfile, hparse⟩ := readRecoveryAck_eq_some.mp hack
        simp only [currentIdentity, Option.map_none, Option.map_some, Option.none_or] at h
        split_ifs at h with hother
        push Not at hother
        exact ⟨Or.inl hnone, Or.inr ⟨ack, hfile, hparse, hother⟩, fun _ => by simp [hfile]⟩
    | some marker =>
      obtain ⟨hfile, hparse⟩ := readRecoveryMarker_eq_some.mp hmarker
      simp only [currentIdentity, Option.map_some, Option.some_or] at h
      split_ifs at h with hother
      push Not at hother
      refine ⟨Or.inr ⟨marker, hfile, hparse, hother⟩, ?_, fun hnone => by simp [hfile] at hnone⟩
      cases ack with
      | none => exact Or.inl (RecoveryFile.read_eq_none.mp hack)
      | some ack =>
        obtain ⟨hfile', hparse'⟩ := readRecoveryAck_eq_some.mp hack
        refine Or.inr ⟨ack, hfile', hparse', ?_⟩
        simpa [RecoveryAcknowledgement.IsFor] using h
  · rintro ⟨hmarker, hack, hfound⟩
    rcases hmarker with hmarker | ⟨marker, hmarker, hparse, hid, hrevision⟩
    · refine ⟨none, RecoveryFile.read_eq_none.mpr hmarker, bind_eq_ok.mpr ?_⟩
      rcases hack with hack | ⟨ack, hack, hparse', hid', hrevision'⟩
      · exact absurd hack (hfound hmarker)
      · refine ⟨some ack, readRecoveryAck_eq_some.mpr ⟨hack, hparse'⟩, ?_⟩
        simp [currentIdentity, hid', hrevision']
    · refine ⟨some marker, readRecoveryMarker_eq_some.mpr ⟨hmarker, hparse⟩, bind_eq_ok.mpr ?_⟩
      rcases hack with hack | ⟨ack, hack, hparse', hid', hrevision'⟩
      · refine ⟨none, RecoveryFile.read_eq_none.mpr hack, ?_⟩
        simp [currentIdentity, hid, hrevision]
      · refine ⟨some ack, readRecoveryAck_eq_some.mpr ⟨hack, hparse'⟩, ?_⟩
        simp [currentIdentity, hid, hrevision, hid', hrevision']

lemma Answerable.parse_acknowledgement (h : Answerable isUuid confirmation dir) :
    parseRecoveryAck isUuid confirmation.acknowledgement = .ok confirmation.acknowledgement := by
  have hvalid : isUuid confirmation.recoveryId = true ∧ confirmation.revision ≠ 0 := by
    rcases h.marker with hnone | ⟨marker, -, hparse, hid, hrevision⟩
    · rcases h.ack with hnone' | ⟨ack, -, hparse, hid, hrevision⟩
      · exact absurd hnone' (h.found hnone)
      · obtain ⟨-, -, huuid, hpositive⟩ := parseRecoveryAck_eq_ok.mp hparse
        exact ⟨hid ▸ huuid, hrevision ▸ hpositive⟩
    · obtain ⟨-, -, hpositive, huuid⟩ := parseRecoveryMarker_eq_ok.mp hparse
      exact ⟨hid ▸ huuid, hrevision ▸ hpositive⟩
  exact parseRecoveryAck_eq_ok.mpr ⟨rfl, rfl, hvalid⟩

/-! ## The steps -/

/-- The steps of an accepted confirmation before the acknowledgement is removed. -/
def confirmSteps (confirmation : ManualRecoveryConfirmation) (dir : RunDir) : List FileStep :=
  atomicWriteFile (.ack .torn) (.ack (.record confirmation.acknowledgement)) ++
    dir.marker.removeSynced .removeMarker

lemma steps_acknowledge_eq_ok :
    (RecoveryCall.acknowledge confirmation).steps isUuid dir = .ok steps ↔
      Answerable isUuid confirmation dir ∧
        steps = confirmSteps confirmation dir ++ [.removeAck, .syncDirectory] := by
  rw [← checkConfirmation_eq_ok]
  unfold RecoveryCall.steps
  rw [bind_eq_ok, exists_unit]
  refine and_congr_right fun _ => ?_
  rw [show (pure _ : Except RecoveryError (List FileStep)) = .ok _ from rfl, Except.ok.injEq]
  exact eq_comm

lemma answerable_of_temps {temps : List RecoveryTemp} (h : Answerable isUuid confirmation dir) :
    Answerable isUuid confirmation { dir with temps := temps } :=
  ⟨h.marker, h.ack, h.found⟩

/-- Removing the marker, if there is one, leaves what does not depend on it. -/
lemma throughout_removeMarker {I : RunDir → Prop} (h : I dir)
    (hremoved : I { dir with marker := .absent }) (marker : RecoveryFile RecoveryMarker) :
    Throughout FileStep.exec I dir (marker.removeSynced .removeMarker) := by
  cases marker with
  | absent => exact h
  | torn | record => exact ⟨h, hremoved, hremoved⟩

/-- What holds as long as the confirmation writes its acknowledgement and removes the marker. -/
lemma throughout_confirmSteps {I : RunDir → Prop}
    (hbefore : ∀ temps, I { dir with temps := temps })
    (hafter : I { dir with ack := .record confirmation.acknowledgement })
    (hremoved : I { dir with marker := .absent, ack := .record confirmation.acknowledgement }) :
    Throughout FileStep.exec I dir (confirmSteps confirmation dir) := by
  unfold confirmSteps atomicWriteFile
  simp only [List.cons_append, List.nil_append, throughout_cons, FileStep.exec, List.tail_cons]
  exact ⟨hbefore dir.temps, hbefore _, hbefore _, hafter,
    throughout_removeMarker hafter hremoved dir.marker⟩

/-- A confirmation can be repeated as long as its acknowledgement has not been removed. -/
lemma Answerable.throughout (h : Answerable isUuid confirmation dir) :
    Throughout FileStep.exec (Answerable isUuid confirmation) dir
      (confirmSteps confirmation dir) := by
  have hack : ∃ ack, RecoveryFile.record confirmation.acknowledgement = .record ack ∧
      parseRecoveryAck isUuid ack = .ok ack ∧ ack.IsFor confirmation :=
    ⟨_, rfl, h.parse_acknowledgement, rfl, rfl⟩
  exact throughout_confirmSteps (fun _ => answerable_of_temps h)
    ⟨h.marker, Or.inr hack, fun _ => by simp⟩ ⟨Or.inl rfl, Or.inr hack, fun _ => by simp⟩

lemma foldl_confirmSteps :
    (confirmSteps confirmation dir ++ [FileStep.removeAck, .syncDirectory]).foldl FileStep.exec dir =
      { marker := .absent, ack := .absent, temps := dir.temps } := by
  unfold confirmSteps atomicWriteFile
  cases hmarker : dir.marker with
  | absent | torn | record =>
    simp [RecoveryFile.removeSynced, FileStep.exec, hmarker]

/-! ## Runs -/

/-- The directory, with what its history says: the marker that was written last and neither
removed nor confirmed since, and the number of writes that stopped before the replacement. -/
structure RecoveryHistory where
  dir : RunDir
  pending : Option RecoveryMarker
  interruptedWrites : ℕ

namespace RecoveryHistory

/-- The marker that is pending when a call has stopped after `n` steps: one that was moved into
place, unless `clear` has removed it or its confirmation has removed the acknowledgement. -/
def pendingAfter (isUuid : String → Bool) (s : RecoveryHistory) (n : ℕ) :
    RecoveryCall → Option RecoveryMarker
  | .persist recoveryId attemptId generation =>
    if 3 ≤ n then some (recoveryRecord recoveryId attemptId generation) else s.pending
  | .clear => if s.dir.marker ≠ .absent ∧ 1 ≤ n then none else s.pending
  | .acknowledge confirmation =>
    match (RecoveryCall.acknowledge confirmation).steps isUuid s.dir with
    | .error _ => s.pending
    | .ok steps =>
      s.pending.filter fun marker => ¬ (marker.IsFor confirmation ∧ steps.length ≤ n + 1)

/-- A call that stops after `n` steps leaves its temporary file behind. -/
def LeavesTemp (isUuid : String → Bool) (s : RecoveryHistory) (n : ℕ) (call : RecoveryCall) :
    Prop :=
  (n = 1 ∨ n = 2) ∧ call ≠ .clear ∧ (call.steps isUuid s.dir).toBool = true

instance (isUuid : String → Bool) (s : RecoveryHistory) (n : ℕ) (call : RecoveryCall) :
    Decidable (s.LeavesTemp isUuid n call) :=
  inferInstanceAs (Decidable (_ ∧ _))

/-- A call that stops after `n` steps; with enough steps it is not interrupted. -/
def after (isUuid : String → Bool) (s : RecoveryHistory) (event : RecoveryCall × ℕ) :
    RecoveryHistory where
  dir := event.1.stop isUuid s.dir event.2
  pending := s.pendingAfter isUuid event.2 event.1
  interruptedWrites :=
    if s.LeavesTemp isUuid event.2 event.1 then s.interruptedWrites + 1 else s.interruptedWrites

/-- The calls so far. -/
def run (isUuid : String → Bool) (dir : RunDir) (events : List (RecoveryCall × ℕ)) :
    RecoveryHistory :=
  events.foldl (after isUuid) ⟨dir, none, 0⟩

end RecoveryHistory

/-- A pending marker is in its place, or its acknowledgement stands for it. -/
def Guards (marker : RecoveryMarker) (dir : RunDir) : Prop :=
  dir.marker = .record marker ∨ dir.marker = .absent ∧ ∃ ack, dir.ack = .record ack ∧
    ack.recoveryId = marker.recoveryId ∧ ack.revision = marker.revision

lemma Guards.closed (h : Guards marker dir) :
    ensureRecoveryClear isUuid dir = .error .recoveryRequired := by
  rw [ensureRecoveryClear_eq_error]
  rintro ⟨-, hmarker, hack⟩
  rcases h with h | ⟨-, ack, h, -⟩
  · rw [hmarker] at h
    cases h
  · rw [hack] at h
    cases h

/-! ## What a call keeps -/

/-- The steps after a replacement create no file. -/
def FileStep.Removes (step : FileStep) : Prop :=
  step = .syncDirectory ∨ step = .removeMarker ∨ step = .removeAck

lemma cut_temps_of_removes (dir : RunDir) (h : ∀ step ∈ steps, step.Removes) (n : ℕ) :
    (cut FileStep.exec dir steps n).temps = dir.temps := by
  induction steps generalizing dir n with
  | nil => simp
  | cons step steps ih =>
    cases n with
    | zero => simp
    | succ n =>
      rw [cut_cons_succ, ih _ fun s hs => h s (List.mem_cons_of_mem _ hs)]
      rcases h step List.mem_cons_self with rfl | rfl | rfl <;> rfl

lemma removes_removeSynced (marker : RecoveryFile RecoveryMarker) :
    ∀ step ∈ marker.removeSynced .removeMarker, step.Removes := by
  cases marker with
  | absent => simp [RecoveryFile.removeSynced]
  | torn | record => simp [RecoveryFile.removeSynced, FileStep.Removes]

/-- A write leaves one temporary file when it stops before the replacement. -/
lemma length_temps_write (dir : RunDir) (created written : RecoveryTemp) {more : List FileStep}
    (hmore : ∀ step ∈ more, step.Removes) (n : ℕ) :
    (cut FileStep.exec dir (atomicWriteFile created written ++ more) n).temps.length =
      if n = 1 ∨ n = 2 then dir.temps.length + 1 else dir.temps.length := by
  unfold atomicWriteFile
  rcases n with - | - | - | - | n
  · simp
  · simp [FileStep.exec]
  · simp [FileStep.exec]
  · cases written <;> simp [FileStep.exec]
  · simp only [List.cons_append, List.nil_append, cut_cons_succ]
    rw [cut_temps_of_removes _ hmore]
    cases written <;> simp [FileStep.exec]

variable {call : RecoveryCall} {s : RecoveryHistory}

lemma RecoveryCall.stop_of_ok (h : call.steps isUuid dir = .ok steps) (n : ℕ) :
    call.stop isUuid dir n = cut FileStep.exec dir steps n := by
  rw [RecoveryCall.stop, h]

lemma RecoveryCall.stop_of_error {e : RecoveryError} (h : call.steps isUuid dir = .error e)
    (n : ℕ) : call.stop isUuid dir n = dir := by
  rw [RecoveryCall.stop, h]

lemma length_temps_stop (n : ℕ) : (call.stop isUuid s.dir n).temps.length =
    if s.LeavesTemp isUuid n call then s.dir.temps.length + 1 else s.dir.temps.length := by
  cases call with
  | persist recoveryId attemptId generation =>
    have hwrite := length_temps_write s.dir (.marker .torn)
      (.marker (.record (recoveryRecord recoveryId attemptId generation)))
      (List.forall_mem_nil _) n
    rw [List.append_nil] at hwrite
    simpa [RecoveryHistory.LeavesTemp, RecoveryCall.stop, RecoveryCall.steps, Except.toBool]
      using hwrite
  | clear =>
    have hkept := cut_temps_of_removes s.dir (removes_removeSynced s.dir.marker) n
    simp [RecoveryHistory.LeavesTemp, RecoveryCall.stop, RecoveryCall.steps, hkept]
  | acknowledge confirmation =>
    cases hsteps : (RecoveryCall.acknowledge confirmation).steps isUuid s.dir with
    | error e =>
      rw [RecoveryCall.stop_of_error hsteps]
      simp [RecoveryHistory.LeavesTemp, hsteps, Except.toBool]
    | ok steps =>
      rw [RecoveryCall.stop_of_ok hsteps]
      have hremoves : ∀ step ∈ s.dir.marker.removeSynced .removeMarker ++
          [.removeAck, .syncDirectory], step.Removes := by
        intro step hstep
        rcases List.mem_append.mp hstep with hstep | hstep
        · exact removes_removeSynced _ step hstep
        · rcases List.mem_pair.mp hstep with rfl | rfl <;> simp [FileStep.Removes]
      obtain ⟨-, rfl⟩ := steps_acknowledge_eq_ok.mp hsteps
      simp only [confirmSteps, List.append_assoc]
      rw [length_temps_write _ _ _ hremoves]
      simp [RecoveryHistory.LeavesTemp, hsteps, Except.toBool]

/-- The marker is either in its place or gone after a call that may remove it. -/
lemma cut_removeMarker {marker : RecoveryFile RecoveryMarker} (hmarker : marker ≠ .absent) (n : ℕ) :
    cut FileStep.exec dir (marker.removeSynced .removeMarker) n =
      if 1 ≤ n then { dir with marker := .absent } else dir := by
  cases marker with
  | absent => exact absurd rfl hmarker
  | torn | record => rcases n with - | - | n <;> simp [RecoveryFile.removeSynced, FileStep.exec]

/-- What stands in the directory when `persist` has stopped. -/
lemma stop_persist (isUuid : String → Bool) (dir : RunDir) (recoveryId : String)
    (attemptId generation n : ℕ) :
    let stopped := (RecoveryCall.persist recoveryId attemptId generation).stop isUuid dir n
    stopped.ack = dir.ack ∧ stopped.marker =
      if 3 ≤ n then .record (recoveryRecord recoveryId attemptId generation) else dir.marker := by
  unfold RecoveryCall.stop RecoveryCall.steps atomicWriteFile
  rcases n with - | - | - | - | n <;> simp [FileStep.exec]

lemma Guards.throughout (h : Guards marker dir) (hfor : marker.IsFor confirmation) :
    Throughout FileStep.exec (Guards marker) dir (confirmSteps confirmation dir) := by
  have hack : ∃ ack, RecoveryFile.record confirmation.acknowledgement = .record ack ∧
      ack.recoveryId = marker.recoveryId ∧ ack.revision = marker.revision :=
    ⟨_, rfl, hfor.1.symm, hfor.2.symm⟩
  refine throughout_confirmSteps (fun _ => h) ?_ (Or.inr ⟨rfl, hack⟩)
  exact h.imp id fun hgone => ⟨hgone.1, hack⟩

lemma Guards.isFor (h : Guards marker dir) (haccepted : Answerable isUuid confirmation dir) :
    marker.IsFor confirmation := by
  rcases h with hmarker | ⟨-, ack, hack, hid, hrevision⟩
  · rcases haccepted.marker with hnone | ⟨marker', hmarker', -, hfor⟩
    · rw [hmarker] at hnone
      cases hnone
    · rw [hmarker] at hmarker'
      cases hmarker'
      exact hfor
  · rcases haccepted.ack with hnone | ⟨ack', hack', -, hfor⟩
    · rw [hack] at hnone
      cases hnone
    · rw [hack] at hack'
      cases hack'
      exact ⟨hid ▸ hfor.1, hrevision ▸ hfor.2⟩

/-- A pending marker is guarded. -/
def RecoveryHistory.Guarded (s : RecoveryHistory) : Prop :=
  ∀ marker, s.pending = some marker → Guards marker s.dir

lemma RecoveryHistory.Guarded.after (h : s.Guarded) (event : RecoveryCall × ℕ) :
    (s.after isUuid event).Guarded := by
  obtain ⟨call, n⟩ := event
  intro marker hpending
  change s.pendingAfter isUuid n call = some marker at hpending
  change Guards marker (call.stop isUuid s.dir n)
  cases call with
  | persist recoveryId attemptId generation =>
    obtain ⟨hack, hmarker⟩ := stop_persist isUuid s.dir recoveryId attemptId generation n
    simp only [RecoveryHistory.pendingAfter] at hpending
    unfold Guards
    rw [hack, hmarker]
    split_ifs at hpending ⊢ with hreplaced
    · cases hpending
      exact Or.inl rfl
    · exact h marker hpending
  | clear =>
    simp only [RecoveryHistory.pendingAfter] at hpending
    split_ifs at hpending with hremoved
    have hguards := h marker hpending
    by_cases habsent : s.dir.marker = .absent
    · simpa [RecoveryCall.stop, RecoveryCall.steps, habsent, RecoveryFile.removeSynced] using hguards
    · have hzero : ¬ 1 ≤ n := fun hn => hremoved ⟨habsent, hn⟩
      simpa [RecoveryCall.stop, RecoveryCall.steps, cut_removeMarker habsent, hzero] using hguards
  | acknowledge confirmation =>
    simp only [RecoveryHistory.pendingAfter] at hpending
    cases hsteps : (RecoveryCall.acknowledge confirmation).steps isUuid s.dir with
    | error e =>
      rw [hsteps] at hpending
      rw [RecoveryCall.stop_of_error hsteps]
      exact h marker hpending
    | ok steps =>
      rw [hsteps] at hpending
      rw [RecoveryCall.stop_of_ok hsteps]
      obtain ⟨hold, hkept⟩ := Option.filter_eq_some_iff.mp hpending
      obtain ⟨haccepted, rfl⟩ := steps_acknowledge_eq_ok.mp hsteps
      have hguards := h marker hold
      have hfor := hguards.isFor haccepted
      -- The acknowledgement is still there, so the call has stopped before its last two steps.
      have hearly : n ≤ (confirmSteps confirmation s.dir).length := by
        simp [hfor] at hkept
        omega
      rw [cut, List.take_append_of_le_length hearly]
      exact throughout_iff.mp (hguards.throughout hfor) n

/-! ## The gate over a run -/

section Run

variable (isUuid) (dir) (events : List (RecoveryCall × ℕ))

lemma guarded_run : (RecoveryHistory.run isUuid dir events).Guarded :=
  List.foldlRecOn events _ (motive := RecoveryHistory.Guarded) (by simp [RecoveryHistory.Guarded])
    fun _ h event _ => h.after event

lemma length_temps_run : (RecoveryHistory.run isUuid dir events).dir.temps.length =
    dir.temps.length + (RecoveryHistory.run isUuid dir events).interruptedWrites := by
  refine List.foldlRecOn events _
    (motive := fun s : RecoveryHistory =>
      s.dir.temps.length = dir.temps.length + s.interruptedWrites) rfl ?_
  intro s h event _
  change (event.1.stop isUuid s.dir event.2).temps.length = _
  rw [length_temps_stop]
  simp only [RecoveryHistory.after]
  split_ifs
  · omega
  · exact h

/-- A confirmation of another identity. -/
def ConfirmsOther (confirmation : ManualRecoveryConfirmation) (dir : RunDir) : Prop :=
  (∃ marker, dir.marker = .record marker ∧ ¬ marker.IsFor confirmation) ∨
    ∃ ack, dir.ack = .record ack ∧ ¬ ack.IsFor confirmation

variable {dir} in
lemma ConfirmsOther.not_answerable (h : ConfirmsOther confirmation dir) :
    ¬ Answerable isUuid confirmation dir := by
  intro haccepted
  rcases h with ⟨marker, hmarker, hother⟩ | ⟨ack, hack, hother⟩
  · rcases haccepted.marker with hnone | ⟨marker', hmarker', -, hfor⟩
    · rw [hmarker] at hnone
      cases hnone
    · rw [hmarker] at hmarker'
      cases hmarker'
      exact hother hfor
  · rcases haccepted.ack with hnone | ⟨ack', hack', -, hfor⟩
    · rw [hack] at hnone
      cases hnone
    · rw [hack] at hack'
      cases hack'
      exact hother hfor

end Run

/-! ## A file that stays behind -/

/-- The hyphenated form of a UUID. -/
def isHyphenatedUuid (text : String) : Bool :=
  text.toList.length == 36 && text.toList.zipIdx.all fun (c, i) =>
    if [8, 13, 18, 23].contains i then c = '-'
    else c.isDigit || ('a' ≤ c && c ≤ 'f') || ('A' ≤ c && c ≤ 'F')

/-- The first write of a marker is interrupted and the second is not. -/
def interruptedEvents : List (RecoveryCall × ℕ) :=
  [(.persist "00000000-0000-4000-8000-000000000003" 3 7, 1),
    (.persist "00000000-0000-4000-8000-000000000004" 4 8, 4)]

end JaDesktop.Bridge
