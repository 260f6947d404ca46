import JaDesktop.WorkspaceRead.Changes

/-!
# A client that replays the batches

A client starts from the baseline of the detector.  It applies the records of every updated poll,
forgets its view when a batch asks for a rescan and reads the baseline again after an updated
rescan.  Whatever the scans find, a view that is not forgotten is the baseline of the detector
(`batches_replay`).
-/

namespace JaDesktop.WorkspaceRead

/-- One call of the detector with what its scan gives. -/
inductive Call
  | poll (now : ℕ) (scan : Except WorkspaceError ScanResult)
  | rescan (finished : ℕ) (scan : Except WorkspaceError ScanResult)

namespace Call

def scan : Call → Except WorkspaceError ScanResult
  | poll _ scan | rescan _ scan => scan

def answer (d : PollingChangeDetector) :
    Call → Except WorkspaceError ChangeBatch × PollingChangeDetector
  | poll now scan => d.poll now scan
  | rescan finished scan => d.rescan finished scan

end Call

/-- What a client does with an answer; `baseline` is the snapshot it would read afterwards. -/
def receive (view : Option Snapshot) (baseline : Snapshot) :
    Call → Except WorkspaceError ChangeBatch → Option Snapshot
  | _, .error _ => view
  | call, .ok batch =>
    if batch.requiresRescan then none
    else
      match batch.state, call with
      | .updated, .poll _ _ => view.map (replay batch.changes)
      | .updated, .rescan _ _ => some baseline
      | _, _ => view

/-- A detector and its client, whose view may be forgotten. -/
structure Session where
  detector : PollingChangeDetector
  view : Option Snapshot

namespace Session

def start (d : PollingChangeDetector) : Session := ⟨d, some d.snapshot⟩

def after (s : Session) (call : Call) : Session :=
  ⟨(call.answer s.detector).2,
    receive s.view (call.answer s.detector).2.snapshot call (call.answer s.detector).1⟩

/-- The client knows the baseline, or knows that it does not. -/
def InSync (s : Session) : Prop := ∀ view, s.view = some view → view = s.detector.snapshot

end Session

/-! ## What a call can do -/

/-- An incomplete scan: it met its deadline or a budget. -/
def Incomplete : Except WorkspaceError ScanResult → Prop
  | .error error => error = .scanDeadlineExceeded
  | .ok scan => scan.overflow = true

/-- The five results of a call. -/
inductive Outcome (d : PollingChangeDetector) :
    Call → Except WorkspaceError ChangeBatch × PollingChangeDetector → Prop
  | notDue {now scan} :
      Outcome d (.poll now scan) (.ok ⟨.notDue, d.generation, [], false⟩, d)
  | failed {call : Call} {error} {lastPoll} :
      ¬Incomplete call.scan → Outcome d call (.error error, { d with lastPoll := lastPoll })
  | incomplete {call : Call} {lastPoll} :
      Incomplete call.scan → Outcome d call { d with lastPoll := lastPoll }.incomplete
  | compared {now} {scan : ScanResult} {lastPoll} :
      scan.overflow = false →
      Outcome d (.poll now (.ok scan))
        (.ok ⟨if decide (d.policy.maxChanges ≤
                (diffSnapshots d.snapshot scan.snapshot d.policy.maxChanges).length) then .overflow
              else .updated,
            PollingChangeDetector.nextGeneration d.generation,
            diffSnapshots d.snapshot scan.snapshot d.policy.maxChanges,
            decide (d.policy.maxChanges ≤
              (diffSnapshots d.snapshot scan.snapshot d.policy.maxChanges).length)⟩,
          { d with
            lastPoll := lastPoll
            generation := PollingChangeDetector.nextGeneration d.generation
            snapshot := scan.snapshot })
  | replaced {finished} {scan : ScanResult} :
      scan.overflow = false →
      Outcome d (.rescan finished (.ok scan))
        (.ok ⟨.updated, PollingChangeDetector.nextGeneration d.generation, [], false⟩,
          { d with
            generation := PollingChangeDetector.nextGeneration d.generation
            snapshot := scan.snapshot
            lastPoll := some finished })

lemma outcome_answer (d : PollingChangeDetector) (call : Call) :
    Outcome d call (call.answer d) := by
  cases call with
  | poll now scan =>
    simp only [Call.answer, PollingChangeDetector.poll]
    split_ifs with hdue
    · exact .notDue
    · cases scan with
      | error error =>
        by_cases hdeadline : error = .scanDeadlineExceeded
        · subst hdeadline
          exact .incomplete rfl
        · have hrest : Outcome d (.poll now (.error error))
              (.error error, { d with lastPoll := some now }) := .failed hdeadline
          cases error <;> first | exact hrest | exact absurd rfl hdeadline
      | ok scan =>
        cases hover : scan.overflow with
        | true =>
          simp only [hover, if_true]
          exact .incomplete hover
        | false =>
          simp only [hover, Bool.false_eq_true, if_false]
          exact .compared hover
  | rescan finished scan =>
    simp only [Call.answer, PollingChangeDetector.rescan]
    cases scan with
    | error error =>
      by_cases hdeadline : error = .scanDeadlineExceeded
      · subst hdeadline
        exact .incomplete rfl
      · have hrest : Outcome d (.rescan finished (.error error)) (.error error, d) :=
          @Outcome.failed d _ _ d.lastPoll hdeadline
        cases error <;> first | exact hrest | exact absurd rfl hdeadline
    | ok scan =>
      cases hover : scan.overflow with
      | true =>
        simp only [hover, if_true]
        exact @Outcome.incomplete d _ d.lastPoll hover
      | false =>
        simp only [hover, Bool.false_eq_true, if_false]
        exact .replaced hover

/-! ## What an answer announces -/

/-- The answer to a call in a session says what the call did to the baseline. -/
structure Announced (s : Session) (call : Call) : Prop where
  /-- An error changes neither the baseline nor the view. -/
  failed : ∀ error, (call.answer s.detector).1 = .error error →
    (s.after call).detector.snapshot = s.detector.snapshot ∧ (s.after call).view = s.view ∧
      (s.after call).detector.generation = s.detector.generation
  /-- Nor does a poll that is not due. -/
  notDue : ∀ batch, (call.answer s.detector).1 = .ok batch → batch.state = .notDue →
    s.after call = s
  /-- Every other answer has a new generation, up to the largest number of its type. -/
  counted : ∀ batch, (call.answer s.detector).1 = .ok batch → batch.state ≠ .notDue →
    batch.generation = min (s.detector.generation + 1) u64Max ∧
      (s.after call).detector.generation = batch.generation
  /-- The records increase strictly in their paths, and there are not too many. -/
  ordered : ∀ batch, (call.answer s.detector).1 = .ok batch →
    (batch.changes.map ChangeRecord.relativePath).Pairwise (· < ·) ∧
      batch.changes.length ≤ s.detector.policy.maxChanges
  /-- Every record is a difference of the baselines before and after the call. -/
  sound : ∀ batch, (call.answer s.detector).1 = .ok batch → ∀ record ∈ batch.changes,
    record.previous = s.detector.snapshot.get record.relativePath ∧
      record.current = (s.after call).detector.snapshot.get record.relativePath ∧
      record.previous ≠ record.current
  /-- A poll that omits a difference asks for a rescan. -/
  complete : ∀ now scan batch, call = .poll now scan →
    (call.answer s.detector).1 = .ok batch → batch.requiresRescan = false →
    ∀ path, s.detector.snapshot.get path ≠ (s.after call).detector.snapshot.get path →
      ∃ record ∈ batch.changes, record.relativePath = path
  /-- So does every answer after a scan that did not end. -/
  incomplete : ∀ batch, (call.answer s.detector).1 = .ok batch → batch.state ≠ .notDue →
    Incomplete call.scan → batch.requiresRescan = true

lemma announced_answer (s : Session) (call : Call) : Announced s call := by
  have houtcome := outcome_answer s.detector call
  constructor
  · intro error herror
    simp only [Session.after]
    generalize call.answer s.detector = result at houtcome herror
    cases houtcome with
    | failed hrest => exact ⟨rfl, rfl, rfl⟩
    | notDue | incomplete _ | compared _ | replaced _ => cases herror
  · intro batch hbatch hstate
    simp only [Session.after]
    generalize call.answer s.detector = result at houtcome hbatch
    cases houtcome with
    | notDue => rfl
    | failed _ => cases hbatch
    | incomplete _ | replaced _ =>
      cases hbatch
      cases hstate
    | compared _ =>
      cases hbatch
      split_ifs at hstate
  · intro batch hbatch hstate
    simp only [Session.after]
    generalize call.answer s.detector = result at houtcome hbatch
    cases houtcome with
    | notDue =>
      cases hbatch
      exact absurd rfl hstate
    | failed _ => cases hbatch
    | incomplete _ | compared _ | replaced _ =>
      cases hbatch
      exact ⟨rfl, rfl⟩
  · intro batch hbatch
    generalize call.answer s.detector = result at houtcome hbatch
    cases houtcome with
    | failed _ => cases hbatch
    | notDue | incomplete _ | replaced _ =>
      cases hbatch
      exact ⟨List.Pairwise.nil, Nat.zero_le _⟩
    | compared _ =>
      cases hbatch
      exact ⟨diffSnapshots_pairwise _ _ _, length_diffSnapshots_le _ _ _⟩
  · intro batch hbatch record hrecord
    simp only [Session.after]
    generalize call.answer s.detector = result at houtcome hbatch
    cases houtcome with
    | failed _ => cases hbatch
    | notDue | incomplete _ | replaced _ =>
      cases hbatch
      cases hrecord
    | compared _ =>
      cases hbatch
      exact difference_of_mem_diffSnapshots hrecord
  · rintro now scan batch rfl hbatch hrescan path hdiffers
    simp only [Session.after] at hdiffers
    generalize Call.answer s.detector (.poll now scan) = result at houtcome hbatch hdiffers
    cases houtcome with
    | notDue => exact absurd rfl hdiffers
    | failed _ => cases hbatch
    | incomplete _ => exact absurd rfl hdiffers
    | compared _ =>
      cases hbatch
      -- the batch is not full, so that it has all the differences
      rw [diffSnapshots_eq_allChanges (not_le.mp (of_decide_eq_false hrescan))]
      exact exists_mem_allChanges hdiffers
  · intro batch hbatch hstate hscan
    generalize call.answer s.detector = result at houtcome hbatch
    cases houtcome with
    | notDue =>
      cases hbatch
      exact absurd rfl hstate
    | failed _ => cases hbatch
    | incomplete _ =>
      cases hbatch
      rfl
    | compared hover | replaced hover => exact absurd hscan (by simp [Incomplete, Call.scan, hover])

/-! ## Runs -/

namespace Session

lemma InSync.after {s : Session} (h : s.InSync) (call : Call) : (s.after call).InSync := by
  have houtcome := outcome_answer s.detector call
  simp only [InSync, Session.after]
  generalize call.answer s.detector = result at houtcome
  cases houtcome with
  | notDue => exact h
  | failed _ => exact h
  | incomplete _ =>
    intro view hview
    cases hview
  | replaced _ =>
    intro view hview
    exact (Option.some_inj.mp hview).symm
  | @compared now scan _ _ =>
    intro view hview
    by_cases hfull : s.detector.policy.maxChanges ≤
        (diffSnapshots s.detector.snapshot scan.snapshot s.detector.policy.maxChanges).length
    · simp [receive, hfull] at hview
    · -- all the differences are applied to the old baseline
      simp only [receive, hfull, decide_false, Bool.false_eq_true, if_false] at hview
      obtain ⟨old, hold, rfl⟩ := Option.map_eq_some_iff.mp hview
      rw [h old hold, diffSnapshots_eq_allChanges (not_le.mp hfull)]
      exact replay_allChanges _ _

lemma policy_after (s : Session) (call : Call) :
    (s.after call).detector.policy = s.detector.policy := by
  have houtcome := outcome_answer s.detector call
  simp only [Session.after]
  generalize call.answer s.detector = result at houtcome
  cases houtcome <;> rfl

lemma inSync_foldl {s : Session} (h : s.InSync) (calls : List Call) :
    (calls.foldl after s).InSync := by
  induction calls generalizing s with
  | nil => exact h
  | cons call calls ih => exact ih (h.after call)

lemma policy_foldl (s : Session) (calls : List Call) :
    (calls.foldl after s).detector.policy = s.detector.policy := by
  induction calls generalizing s with
  | nil => rfl
  | cons call calls ih => exact (ih _).trans (s.policy_after call)

end Session

/-- **Batches replay to the baseline.**  After every sequence of polls and rescans, whatever their
scans find, the client that replays them has forgotten its view or has the detector's baseline,
and every answer announces what its call did. -/
theorem batches_replay {policy : PollingPolicy} {scan : Except WorkspaceError ScanResult}
    {d : PollingChangeDetector} (h : PollingChangeDetector.new policy scan = .ok d)
    (calls : List Call) :
    (calls.foldl Session.after (.start d)).InSync ∧
      (calls.foldl Session.after (.start d)).detector.policy = policy.bounded ∧
      ∀ call, Announced (calls.foldl Session.after (.start d)) call := by
  have hpolicy : d.policy = policy.bounded := by
    cases scan with
    | error error => cases h
    | ok scan =>
      simp only [PollingChangeDetector.new] at h
      split_ifs at h
      cases h
      rfl
  refine ⟨Session.inSync_foldl ?_ calls, ?_, fun call => announced_answer _ call⟩
  · intro view hview
    exact (Option.some_inj.mp hview).symm
  · rw [Session.policy_foldl]
    exact hpolicy

/-- The detector of an empty workspace. -/
def emptyDetector : PollingChangeDetector :=
  ⟨PollingPolicy.default.bounded, OrderedMap.empty, none, 0⟩

/-- One file appears. -/
def oneFile : Snapshot := OrderedMap.empty.insert "a" ⟨.file, 1, some 5, none⟩

theorem batches_replay_oneFile :
    PollingChangeDetector.new .default (.ok ⟨OrderedMap.empty, false⟩) = .ok emptyDetector ∧
      ([Call.poll 0 (.ok ⟨oneFile, false⟩)].foldl Session.after (.start emptyDetector)).InSync :=
  ⟨rfl, (@batches_replay .default (.ok ⟨OrderedMap.empty, false⟩) _ rfl
    [.poll 0 (.ok ⟨oneFile, false⟩)]).1⟩

/-- A rescan that meets its deadline. -/
def lateRescan : Call := .rescan 0 (.error .scanDeadlineExceeded)

lemma generation_lateRescans (n : ℕ) :
    ((List.replicate n lateRescan).foldl Session.after
      (.start emptyDetector)).detector.generation = min n u64Max := by
  induction n with
  | zero => rfl
  | succ n ih =>
    rw [List.replicate_succ', List.foldl_append, List.foldl_cons, List.foldl_nil]
    change min (_ + 1) u64Max = _
    rw [ih]
    omega

/-- The batch of an updated rescan has no record of the file that appeared, and after enough
answers the generation stays where it is. -/
theorem rescan_omits_and_generation_stays :
    ((∃ batch, ((Call.rescan 0 (.ok ⟨oneFile, false⟩)).answer emptyDetector).1 = .ok batch ∧
        batch.requiresRescan = false ∧ batch.changes = []) ∧
      emptyDetector.snapshot.get "a" ≠
        ((Call.rescan 0 (.ok ⟨oneFile, false⟩)).answer emptyDetector).2.snapshot.get "a") ∧
    ∃ s, s = (List.replicate u64Max lateRescan).foldl Session.after (.start emptyDetector) ∧
      (∃ batch, (lateRescan.answer s.detector).1 = .ok batch ∧ batch.state = .overflow) ∧
      (s.after lateRescan).detector.generation = s.detector.generation := by
  refine ⟨⟨⟨_, rfl, rfl, rfl⟩, by decide⟩, _, rfl, ⟨_, rfl, rfl⟩, ?_⟩
  change min (_ + 1) u64Max = _
  rw [generation_lateRescans]
  omega

end JaDesktop.WorkspaceRead
