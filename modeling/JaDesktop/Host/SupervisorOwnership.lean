import JaDesktop.Host.Supervisor

/-!
# One owned sidecar

The log of the supervisor is sound after every sequence of operations: a process is spawned only
when no process and no session is owned, the lifecycle turns to `exited` only when nothing is
owned, and a cleanup that fails keeps what was owned.  The log misses no change of the lifecycle,
and whenever the lifecycle is `exited` nothing is owned.
-/

namespace JaDesktop.Host

/-! ## The log -/

/-- What an entry of the log promises. -/
def SupervisorEffect.Sound : SupervisorEffect → Prop
  | .spawn owned => owned.process = none ∧ owned.session = none
  | .lifecycle before after owned => after = .exited → before ≠ .exited → owned = .nothing
  | .cleanup failed before after => failed = true → after = before

/-- The state of the lifecycle after the changes of a log. -/
def lastState (log : List SupervisorEffect) : LifecycleState :=
  log.foldl (fun state effect =>
    match effect with
    | .lifecycle _ after _ => after
    | _ => state) .exited

/-- Each change of the lifecycle starts where the last one ended. -/
def Recorded (log : List SupervisorEffect) : Prop :=
  ∀ pre before after owned post, log = pre ++ .lifecycle before after owned :: post →
    before = lastState pre

lemma Recorded.concat {log : List SupervisorEffect} (h : Recorded log) {effect : SupervisorEffect}
    (heffect : ∀ before after owned, effect = .lifecycle before after owned →
      before = lastState log) : Recorded (log ++ [effect]) := by
  intro pre before after owned post heq
  rcases concat_eq_append_cons heq with ⟨rfl, rfl, -⟩ | ⟨post', -, hlog⟩
  · exact heffect before after owned rfl
  · exact h pre before after owned post' hlog

namespace SidecarSupervisor

open LifecycleMachine (Call)

/-- The log is sound and complete, and nothing is owned in `exited`. -/
structure Kept (s : SidecarSupervisor) : Prop where
  sound : ∀ effect ∈ s.log, effect.Sound
  recorded : Recorded s.log
  current : lastState s.log = s.lifecycle.state
  released : s.lifecycle.state = .exited → s.owned = .nothing

variable {s t : SidecarSupervisor}

lemma Kept.congr (h : Kept s) (hlifecycle : t.lifecycle = s.lifecycle) (howned : t.owned = s.owned)
    (hlog : t.log = s.log) : Kept t := by
  obtain ⟨hsound, hrecorded, hcurrent, hreleased⟩ := h
  constructor
  · rw [hlog]
    exact hsound
  · rw [hlog]
    exact hrecorded
  · rw [hlog, hlifecycle]
    exact hcurrent
  · rw [hlifecycle, howned]
    exact hreleased

/-- A move of the lifecycle; to `exited` only when nothing is owned. -/
lemma Kept.setLifecycle (h : Kept s) {m : LifecycleMachine}
    (hm : m.state = .exited → s.owned = .nothing) : Kept (s.setLifecycle m) := by
  refine ⟨?_, ?_, ?_, hm⟩
  · exact List.forall_mem_append.mpr ⟨h.sound,
      List.forall_mem_singleton.mpr (fun hafter _ => hm hafter)⟩
  · refine h.recorded.concat ?_
    rintro before after owned ⟨⟩
    exact h.current.symm
  · simp [SidecarSupervisor.setLifecycle, lastState]

/-- A move by an operation other than `mark_exited`. -/
lemma Kept.call (h : Kept s) (call : Call) (hcall : ∀ generation, call ≠ .markExited generation)
    (now later : ℕ) : Kept (s.setLifecycle (s.lifecycle.after call now later)) :=
  h.setLifecycle fun hexited => h.released (LifecycleMachine.exited_of_after hcall hexited)

/-- Handles come and go while the lifecycle is not `exited`. -/
lemma Kept.own (h : Kept s) (hstate : s.lifecycle.state ≠ .exited) (owned : Owned) :
    Kept { s with owned := owned } :=
  ⟨h.sound, h.recorded, h.current, fun hexited => absurd hexited hstate⟩

lemma ownsResources_eq_false : s.ownsResources = false ↔ s.owned = .nothing := by
  obtain ⟨_, ⟨process, session, eventPump⟩, _, _, _, _⟩ := s
  simp [SidecarSupervisor.ownsResources, Owned.nothing, and_assoc]

/-! ## Signals and cleanup -/

lemma Kept.markExited (h : Kept s) (howns : (!s.ownsResources) = true) (generation : ℕ) :
    Kept (s.setLifecycle (s.lifecycle.markExited generation).2) :=
  h.setLifecycle fun _ => ownsResources_eq_false.mp (by simpa using howns)

lemma Kept.handleFault (h : Kept s) (generation now later : ℕ) :
    Kept (s.handleFault generation now later) := by
  have hcrash : Kept (s.setLifecycle (s.lifecycle.recordCrash generation now later).2) :=
    h.call (.recordCrash generation) (by rintro generation ⟨⟩) now later
  unfold SidecarSupervisor.handleFault
  split
  · exact hcrash
  · exact hcrash
  · exact hcrash
  · split
    · exact h.markExited (by assumption) generation
    · exact h
  · exact h

lemma Kept.handleSignal (h : Kept s) (signal : TerminalSignal) (now later : ℕ) :
    Kept (s.handleSignal signal now later) := by
  unfold SidecarSupervisor.handleSignal
  split
  · exact h
  · split
    · exact h.handleFault _ now later
    · exact h.handleFault _ now later
    · split
      · exact h.markExited (by tauto) _
      · exact h

lemma Kept.syncTerminalSignals (h : Kept s) (answers : SyncAnswers) :
    Kept (s.syncTerminalSignals answers) := by
  have hfold : ∀ (signals : List (TerminalSignal × ℕ)) (s : SidecarSupervisor), Kept s →
      Kept (signals.foldl (fun s signal =>
        s.handleSignal signal.1 (answers.clock signal.2).1 (answers.clock signal.2).2) s) := by
    intro signals
    induction signals with
    | nil => exact fun s hs => hs
    | cons signal signals ih => exact fun s hs => ih _ (hs.handleSignal _ _ _)
  exact hfold _ _ (h.congr rfl rfl rfl)

@[simp] lemma handleSignal_owned (signal : TerminalSignal) (now later : ℕ) :
    (s.handleSignal signal now later).owned = s.owned := by
  unfold SidecarSupervisor.handleSignal SidecarSupervisor.handleFault
  split
  · rfl
  · split
    · split <;> first | rfl | (split <;> rfl)
    · split <;> first | rfl | (split <;> rfl)
    · split <;> rfl

lemma syncTerminalSignals_owned (answers : SyncAnswers) :
    (s.syncTerminalSignals answers).owned = s.owned := by
  have hfold : ∀ (signals : List (TerminalSignal × ℕ)) (s : SidecarSupervisor),
      (signals.foldl (fun s signal =>
        s.handleSignal signal.1 (answers.clock signal.2).1 (answers.clock signal.2).2) s).owned =
        s.owned := by
    intro signals
    induction signals with
    | nil => exact fun s => rfl
    | cons signal signals ih => exact fun s => (ih _).trans (handleSignal_owned _ _ _)
  exact hfold _ _

lemma Kept.cleanupOwner (h : Kept s) (answers : CleanupAnswers) :
    Kept (s.cleanupOwner answers).2 := by
  unfold SidecarSupervisor.cleanupOwner
  simp only
  split
  · refine ⟨?_, h.recorded.concat (by rintro _ _ _ ⟨⟩), ?_, h.released⟩
    · exact List.forall_mem_append.mpr ⟨h.sound, List.forall_mem_singleton.mpr (fun _ => rfl)⟩
    · simpa [lastState] using h.current
  · refine ⟨?_, h.recorded.concat (by rintro _ _ _ ⟨⟩), ?_, fun _ => rfl⟩
    · intro effect heffect
      rcases List.mem_append.mp heffect with hold | hnew
      · exact h.sound effect hold
      · obtain rfl := List.mem_singleton.mp hnew
        rintro ⟨⟩
    · simpa [lastState] using h.current

lemma cleanupOwner_owned {answers : CleanupAnswers} (h : (s.cleanupOwner answers).1 = .ok ()) :
    (s.cleanupOwner answers).2.owned = .nothing := by
  unfold SidecarSupervisor.cleanupOwner at h ⊢
  simp only at h ⊢
  split at h
  · cases h
  · rfl

/-! ## Starting -/

section Start

variable {params : Value} {limits : Limits} {generation : ℕ} {answers : StartAnswers}

lemma Kept.failGeneration (h : Kept s) (generation : ℕ) (answers : CleanupAnswers) :
    Kept (s.failGeneration generation answers) :=
  (h.cleanupOwner answers).call (.markFaulted generation) (by rintro generation ⟨⟩) 0 0

lemma Kept.refuseStart (h : Kept s) (generation : ℕ) (answers : CleanupAnswers)
    (incompatible : Bool) (error : AgentProcessError) :
    Kept (s.refuseStart generation answers incompatible error).2 := by
  unfold SidecarSupervisor.refuseStart
  simp only
  split
  · exact (h.cleanupOwner answers).call (.markIncompatible generation)
      (by rintro generation ⟨⟩) 0 0
  · exact (h.cleanupOwner answers).call (.markFaulted generation)
      (by rintro generation ⟨⟩) 0 0

lemma Kept.awaitReady (h : Kept s) (events : List SessionEvent) :
    Kept (s.awaitReady generation answers events).2 := by
  have hfail (error : AgentProcessError) :
      Kept (s.failStart generation answers.cleanup error).2 := h.failGeneration generation _
  induction events with
  | nil => exact hfail _
  | cons event events ih =>
    cases event with
    | notification frame =>
      unfold SidecarSupervisor.awaitReady
      simp only
      split
      · split
        · exact hfail _
        · split
          · exact hfail _
          · split
            · rename_i m hready
              have hm : (s.lifecycle.markReady generation answers.readyAt).2 = m := by rw [hready]
              rw [← hm]
              exact h.call (.markReady generation) (by rintro generation ⟨⟩) _ 0
            · exact hfail _
      · exact ih
    | serverRequest frame | stderrLine line | stderrTruncated | queueOverflow kind => exact ih
    | _ => exact hfail _

lemma Kept.handshake (h : Kept s) (hstate : s.lifecycle.state ≠ .exited) :
    Kept (s.handshake params limits generation answers).2 := by
  have hpump : Kept { s with owned := { s.owned with eventPump := some generation } } :=
    h.own hstate _
  unfold SidecarSupervisor.handshake
  simp only
  split
  · exact h.failGeneration _ _
  split
  · exact hpump.failGeneration _ _
  split
  · exact hpump.failGeneration _ _
  split
  · exact hpump.failGeneration _ _
  split
  · exact hpump.failGeneration _ _
  split
  · split
    · exact hpump.refuseStart _ _ _ _
    · exact hpump.refuseStart _ _ _ _
  split
  · exact hpump.refuseStart _ _ _ _
  rename_i serverInstance _
  have hinstance : Kept { s with
      owned := { s.owned with eventPump := some generation }
      expectedServerInstance := some serverInstance } := hpump.congr rfl rfl rfl
  split
  · exact hinstance.failGeneration _ _
  split
  · exact hinstance.failGeneration _ _
  · exact hinstance.awaitReady _

lemma Kept.spawnGeneration (h : Kept s)
    (hfree : s.lifecycle.state = .exited ∨ s.lifecycle.state = .backoff →
      s.owned.process = none ∧ s.owned.session = none) :
    Kept (s.spawnGeneration params limits answers).2 := by
  unfold SidecarSupervisor.spawnGeneration
  rcases s.lifecycle.beginStart_cases answers.now answers.later with ⟨hstate, hstart⟩ | ⟨e, hstart⟩
  · rw [hstart]
    have hstarted : Kept (s.setLifecycle s.lifecycle.started) := h.setLifecycle (by rintro ⟨⟩)
    have hspawn : Kept { s.setLifecycle s.lifecycle.started with
        expectedServerInstance := none
        log := (s.setLifecycle s.lifecycle.started).log ++ [.spawn s.owned] } := by
      refine ⟨?_, hstarted.recorded.concat (by rintro _ _ _ ⟨⟩), ?_, by rintro ⟨⟩⟩
      · exact List.forall_mem_append.mpr ⟨hstarted.sound,
          List.forall_mem_singleton.mpr (hfree hstate)⟩
      · simpa [lastState] using hstarted.current
    simp only
    split
    · exact hspawn.call (.markFaulted _) (by rintro generation ⟨⟩) 0 0
    · exact (hspawn.own (by rintro ⟨⟩) _).handshake (by rintro ⟨⟩)
  · rw [hstart]
    exact h

lemma Kept.start (h : Kept s) : Kept (s.start params limits answers).2 := by
  have hsync : Kept { s.syncTerminalSignals answers.sync with stopping := false } :=
    (h.syncTerminalSignals answers.sync).congr rfl rfl rfl
  unfold SidecarSupervisor.start
  split
  · exact h
  · simp only
    split
    · have hclean := hsync.cleanupOwner answers.earlier
      split
      · exact hclean
      · rename_i howns
        refine hclean.spawnGeneration fun _ => ?_
        have hnothing := ownsResources_eq_false.mp (by simpa using howns)
        rw [SidecarSupervisor.failProcessOnly] at hnothing
        rw [hnothing]
        exact ⟨rfl, rfl⟩
    · rename_i hbusy
      refine hsync.spawnGeneration fun hstate => ?_
      have hfree : ¬ (_ ∨ _) := fun howned => hbusy ⟨hstate, howned⟩
      simpa using hfree

end Start

/-! ## The other operations -/

variable {params : Value} {limits : Limits}

lemma Kept.restart (h : Kept s) (sync : SyncAnswers) (now later : ℕ) (answers : StartAnswers) :
    Kept (s.restart params limits sync now later answers).2 := by
  have hsync := h.syncTerminalSignals sync
  have hstopping : Kept { s.syncTerminalSignals sync with stopping := false } :=
    hsync.congr rfl rfl rfl
  unfold SidecarSupervisor.restart
  simp only
  split
  · exact hsync
  · exact hstopping.start

lemma Kept.shutdown (h : Kept s) (answers : ShutdownAnswers) : Kept (s.shutdown answers).2 := by
  have hstopping : Kept { s with stopping := true } := h.congr rfl rfl rfl
  have hsync := hstopping.syncTerminalSignals answers.sync
  unfold SidecarSupervisor.shutdown
  split
  · exact h
  simp only
  generalize { s with stopping := true }.syncTerminalSignals answers.sync = s at hsync
  split
  · exact hsync
  split
  · exact hsync
  rename_i begun hbegun
  have hkept : Kept begun := by
    split at hbegun
    · split at hbegun
      · rename_i m hstop
        cases hbegun
        have hm : (s.lifecycle.beginStop s.lifecycle.generation).2 = m := by rw [hstop]
        rw [← hm]
        exact hsync.call (.beginStop _) (by rintro generation ⟨⟩) 0 0
      · cases hbegun
    · cases hbegun
      exact hsync
  have hclean := hkept.cleanupOwner answers.cleanup
  split
  · rename_i hcleanup
    rw [hcleanup] at hclean
    exact hclean
  · rename_i cleaned hcleanup
    have howned : cleaned.owned = .nothing := by
      have hdropped : (begun.cleanupOwner answers.cleanup).2.owned = .nothing :=
        cleanupOwner_owned (by rw [hcleanup])
      rwa [hcleanup] at hdropped
    rw [hcleanup] at hclean
    refine (hclean.syncTerminalSignals answers.afterCleanup).setLifecycle fun _ => ?_
    rw [syncTerminalSignals_owned]
    exact howned

lemma Kept.request (h : Kept s) (sync : SyncAnswers) (result : Except AgentProcessError RpcFrame)
    (afterRequest : SyncAnswers) : Kept (s.request sync result afterRequest).2 := by
  have hsync := h.syncTerminalSignals sync
  unfold SidecarSupervisor.request
  simp only
  generalize s.syncTerminalSignals sync = s at hsync
  split
  · exact hsync
  split
  · exact hsync
  split
  · exact hsync
  · rename_i m hbusy
    have hm : (s.lifecycle.markBusy s.lifecycle.generation).2 = m := by rw [hbusy]
    have hbusied : Kept (s.setLifecycle m) := by
      rw [← hm]
      exact hsync.call (.markBusy _) (by rintro generation ⟨⟩) 0 0
    split
    · exact hbusied
    · exact (hbusied.call (.markReadyAgain _) (by rintro generation ⟨⟩) 0 0).syncTerminalSignals _

lemma Kept.takeEventPump (h : Kept s) (sync : SyncAnswers) : Kept (s.takeEventPump sync).2 := by
  have hsync := h.syncTerminalSignals sync
  unfold SidecarSupervisor.takeEventPump
  simp only
  generalize s.syncTerminalSignals sync = s at hsync
  split
  · rename_i pump hpump
    refine hsync.own (fun hexited => ?_) _
    rw [hsync.released hexited] at hpump
    cases hpump
  · exact hsync

lemma Kept.client (h : Kept s) (sync : SyncAnswers) : Kept (s.client sync).2 := by
  have hsync := h.syncTerminalSignals sync
  unfold SidecarSupervisor.client
  simp only
  split
  · exact hsync
  split
  · split <;> exact hsync
  · split <;> exact hsync
  · exact hsync
  · exact hsync

/-- **Every action keeps the log sound and complete.** -/
theorem Kept.after (h : Kept s) (action : Action) : Kept (s.after params limits action) := by
  cases action with
  | signal signal => exact h.congr rfl rfl rfl
  | start answers => exact h.start
  | restart sync now later answers => exact h.restart sync now later answers
  | scheduleRestart sync now later cleanup =>
    exact ((h.syncTerminalSignals sync).call (.recordCrash _) (by rintro generation ⟨⟩)
      now later).cleanupOwner cleanup
  | shutdown answers => exact h.shutdown answers
  | request sync result afterRequest => exact h.request sync result afterRequest
  | takeEventPump sync => exact h.takeEventPump sync
  | state sync => exact h.syncTerminalSignals sync
  | client sync => exact h.client sync
  | nextEvent sync event afterEvent =>
    exact (h.syncTerminalSignals sync).syncTerminalSignals afterEvent

/-- A start whose session refuses its event pump, and whose process tree cannot be ended. -/
def unluckyStart : StartAnswers where
  deadline := .ok ()
  sync := ⟨[], fun _ => (0, 0)⟩
  earlier := ⟨.ok (), .ok ()⟩
  now := 0
  later := 0
  spawn := .ok ()
  takeEventPump := .error .invalidState
  nextReadyToken := .error .handshakeFailed
  installReadyTokenChallenge := .ok ()
  timeLeft := true
  initializeResponse := .error .deadlineExceeded
  initializedParams := .error .handshakeFailed
  notify := .ok ()
  events := []
  promotion := none
  readyAt := 0
  cleanup := ⟨.ok (), .error .processTree⟩

end SidecarSupervisor

end JaDesktop.Host
