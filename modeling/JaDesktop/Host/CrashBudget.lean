import JaDesktop.Host.Lifecycle

/-!
# The crash budget

A history goes along with the lifecycle machine: when the running instance became ready, and the
crashes that counted, each with what it led to.  The number of crashes since the last one that hit
a stable instance is the counter of the machine, which decides between `backoff` and `faulted`.
-/

namespace JaDesktop.Host

/-! ## Histories -/

/-- A crash of a running instance: when the instance had become ready, the two readings of the
clock, and the state that the machine went to. -/
structure Crash where
  readyAt : Option ℕ
  now : ℕ
  later : ℕ
  outcome : LifecycleState

/-- The instance had been ready for thirty seconds. -/
def Crash.Stable (c : Crash) : Prop := ∃ readyAt, c.readyAt = some readyAt ∧ readyAt + 30000 ≤ c.now

instance (c : Crash) : Decidable c.Stable :=
  match hready : c.readyAt with
  | none => .isFalse (by rintro ⟨readyAt, h, -⟩; rw [hready] at h; cases h)
  | some readyAt =>
    if hle : readyAt + 30000 ≤ c.now then .isTrue ⟨readyAt, hready, hle⟩
    else .isFalse (by rintro ⟨_, h, h'⟩; rw [hready] at h; cases h; exact hle h')

/-- The machine, the last reading of the clock, when the running instance became ready, and the
crashes so far. -/
structure LifecycleHistory where
  machine : LifecycleMachine
  clock : ℕ
  readyAt : Option ℕ
  crashes : List Crash

/-- The crashes since the last one of a stable instance, that one included. -/
def crashCount (crashes : List Crash) : ℕ :=
  crashes.foldl (fun n c => if c.Stable then 1 else n + 1) 0

namespace LifecycleHistory

open LifecycleMachine (Call)

/-- The history after an operation. -/
def after (h : LifecycleHistory) (call : Call) (now later : ℕ) : LifecycleHistory where
  machine := h.machine.after call now later
  clock := later
  readyAt :=
    match call with
    | .beginStart => if (h.machine.beginStart now later).1.toBool then none else h.readyAt
    | .markReady generation =>
      if (h.machine.markReady generation now).1.toBool then some now else h.readyAt
    | _ => h.readyAt
  crashes :=
    match call with
    | .recordCrash generation =>
      if generation = h.machine.generation ∧ h.machine.Active then
        h.crashes ++ [⟨h.readyAt, now, later, (h.machine.recordCrash generation now later).1⟩]
      else h.crashes
    | _ => h.crashes

/-- An operation while the clock does not go back. -/
def Step (h : LifecycleHistory) (action : Call × ℕ × ℕ) (h' : LifecycleHistory) : Prop :=
  h.clock ≤ action.2.1 ∧ action.2.1 ≤ action.2.2 ∧
    h' = h.after action.1 action.2.1 action.2.2

/-- The history of a new machine. -/
def start (m : LifecycleMachine) : LifecycleHistory := ⟨m, 0, none, []⟩

/-- A history that some sequence of operations produces from a new machine. -/
def Reachable (policy : RestartPolicy) (h : LifecycleHistory) : Prop :=
  ∃ m actions, LifecycleMachine.withClock policy = .ok m ∧ Run Step (start m) actions h

end LifecycleHistory

/-! ## Counting crashes -/

lemma crashCount_concat (crashes : List Crash) (c : Crash) :
    crashCount (crashes ++ [c]) = if c.Stable then 1 else crashCount crashes + 1 := by
  simp [crashCount]

/-- What the crash that makes the count `n` leads to. -/
def outcomeAt (maxAttempts n : ℕ) : LifecycleState :=
  if maxAttempts < n then .faulted else .backoff

/-- Each crash led to what its place in the count says. -/
def Settles (maxAttempts : ℕ) (crashes : List Crash) : Prop :=
  ∀ pre c post, crashes = pre ++ c :: post →
    c.outcome = outcomeAt maxAttempts (crashCount (pre ++ [c]))

variable {maxAttempts : ℕ} {crashes window : List Crash} {c : Crash}

lemma Settles.concat (h : Settles maxAttempts crashes)
    (hc : c.outcome = outcomeAt maxAttempts (crashCount (crashes ++ [c]))) :
    Settles maxAttempts (crashes ++ [c]) := by
  intro pre d post heq
  rcases concat_eq_append_cons heq with ⟨rfl, rfl, -⟩ | ⟨post', -, hpre⟩
  · exact hc
  · exact h pre d post' hpre

lemma crashCount_concat_pos (crashes : List Crash) (c : Crash) :
    0 < crashCount (crashes ++ [c]) := by
  rw [crashCount_concat]
  split_ifs <;> omega

/-- The crashes of the window, of which only the first may have hit a stable instance. -/
def EarlyAfterFirst (window : List Crash) : Prop := ∀ c ∈ window.tail, ¬ c.Stable

lemma EarlyAfterFirst.of_concat (h : EarlyAfterFirst (window ++ [c])) :
    EarlyAfterFirst window ∧ (window = [] ∨ ¬ c.Stable) := by
  cases window with
  | nil => exact ⟨by rintro d ⟨⟩, Or.inl rfl⟩
  | cons first rest =>
    have htail : (first :: rest ++ [c]).tail = rest ++ [c] := rfl
    rw [EarlyAfterFirst, htail] at h
    exact ⟨fun d hd => h d (by simp [show d ∈ rest from hd]), Or.inr (h c (by simp))⟩

/-- In such a window at most `maxAttempts` crashes lead to `backoff`, and the counter has seen all
of them. -/
lemma Settles.countP_le {pre post : List Crash} (h : Settles maxAttempts crashes)
    (hcrashes : crashes = pre ++ window ++ post) (hearly : EarlyAfterFirst window) :
    window.countP (fun c => c.outcome = .backoff) ≤ maxAttempts ∧
      window.countP (fun c => c.outcome = .backoff) ≤ crashCount (pre ++ window) := by
  induction window using List.reverseRecOn generalizing post with
  | nil => simp
  | append_singleton window c ih =>
    obtain ⟨hwindow, hlast⟩ := hearly.of_concat
    have hbefore : crashes = pre ++ window ++ c :: post := by simp [hcrashes]
    obtain ⟨hle, hseen⟩ := ih hbefore hwindow
    have hcount : window.countP (fun c => c.outcome = .backoff) + 1 ≤
        crashCount (pre ++ (window ++ [c])) := by
      rw [← List.append_assoc]
      rcases hlast with rfl | hstable
      · exact crashCount_concat_pos _ c
      · rw [crashCount_concat, if_neg hstable]
        omega
    have houtcome := h (pre ++ window) c post (by simp [hcrashes])
    rw [List.append_assoc, outcomeAt] at houtcome
    rw [List.countP_append, List.countP_singleton]
    by_cases hover : maxAttempts < crashCount (pre ++ (window ++ [c]))
    · rw [if_pos hover] at houtcome
      rw [if_neg (by simp [houtcome])]
      omega
    · rw [if_neg hover] at houtcome
      rw [if_pos (by simp [houtcome])]
      omega

/-- The crash after `maxAttempts` of them does not. -/
lemma Settles.outcome_next {pre post : List Crash} (h : Settles maxAttempts crashes)
    (hcrashes : crashes = pre ++ window ++ c :: post) (hearly : EarlyAfterFirst window)
    (hstable : ¬ c.Stable) (hcount : window.countP (fun c => c.outcome = .backoff) = maxAttempts) :
    c.outcome = .faulted := by
  obtain ⟨-, hseen⟩ := h.countP_le hcrashes hearly
  have houtcome := h (pre ++ window) c post hcrashes
  rw [crashCount_concat, if_neg hstable, outcomeAt, if_pos (by omega)] at houtcome
  exact houtcome

/-! ## The invariant -/

namespace LifecycleHistory

open LifecycleMachine (Call)

/-- The machine waits for a start after a crash, with a deadline in reach of the policy. -/
def Waiting (policy : RestartPolicy) (h : LifecycleHistory) : Prop :=
  1 ≤ h.machine.restartAttempt ∧ h.machine.restartAttempt ≤ policy.maxAttempts ∧
    ∃ crash deadline, h.crashes.getLast? = some crash ∧ crash.outcome = .backoff ∧
      h.machine.nextRetryMillis = some deadline ∧
      fromMillis deadline ≤ fromMillis crash.later + policy.maxDelay

/-- The counter of the machine is the count of the crashes, and stays in the budget. -/
structure Budgeted (policy : RestartPolicy) (h : LifecycleHistory) : Prop where
  same : h.machine.policy = policy
  attempts : h.machine.restartAttempt = crashCount h.crashes
  limit : h.machine.restartAttempt ≤ policy.maxAttempts + 1
  budget : ¬ h.machine.Terminal → h.machine.restartAttempt ≤ policy.maxAttempts
  ready : ¬ h.machine.Terminal → h.machine.readySinceMillis = h.readyAt
  waiting : h.machine.state = .backoff → h.Waiting policy
  settles : Settles policy.maxAttempts h.crashes

variable {policy : RestartPolicy} {h h' : LifecycleHistory}

/-- A step without a crash, to a state other than `backoff`. -/
lemma Budgeted.move (hb : Budgeted policy h) {m : LifecycleMachine} {clock : ℕ}
    {readyAt : Option ℕ} (hpolicy : m.policy = h.machine.policy)
    (hattempt : m.restartAttempt = h.machine.restartAttempt)
    (hterminal : h.machine.Terminal → m.Terminal)
    (hready : ¬ m.Terminal → m.readySinceMillis = readyAt) (hstate : m.state ≠ .backoff) :
    Budgeted policy ⟨m, clock, readyAt, h.crashes⟩ where
  same := hpolicy.trans hb.same
  attempts := hattempt.trans hb.attempts
  limit := by
    rw [hattempt]
    exact hb.limit
  budget hm := by
    rw [hattempt]
    exact hb.budget fun hold => hm (hterminal hold)
  ready := hready
  waiting hbackoff := absurd hbackoff hstate
  settles := hb.settles

lemma Budgeted.tick (hb : Budgeted policy h) (clock : ℕ) :
    Budgeted policy { h with clock := clock } := by
  obtain ⟨hpolicy, hattempts, hlimit, hbudget, hready, hwaiting, hsettles⟩ := hb
  exact ⟨hpolicy, hattempts, hlimit, hbudget, hready, hwaiting, hsettles⟩

lemma deadline_le (policy : RestartPolicy) (attempt later : ℕ) :
    fromMillis (saturatingAddTo u64Max later
      (min (asMillis (LifecycleMachine.backoffDelay policy attempt)) u64Max)) ≤
        fromMillis later + policy.maxDelay := by
  have hdelay : LifecycleMachine.backoffDelay policy attempt ≤ policy.maxDelay :=
    Nat.min_le_right _ _
  have hmillis : asMillis (LifecycleMachine.backoffDelay policy attempt) * 10 ^ 6 ≤
      LifecycleMachine.backoffDelay policy attempt := Nat.div_mul_le_self _ _
  have hsum : saturatingAddTo u64Max later
      (min (asMillis (LifecycleMachine.backoffDelay policy attempt)) u64Max) ≤
        later + asMillis (LifecycleMachine.backoffDelay policy attempt) :=
    (Nat.min_le_left _ _).trans (Nat.add_le_add_left (Nat.min_le_left _ _) _)
  calc fromMillis (saturatingAddTo u64Max later
        (min (asMillis (LifecycleMachine.backoffDelay policy attempt)) u64Max))
      ≤ (later + asMillis (LifecycleMachine.backoffDelay policy attempt)) * 10 ^ 6 :=
        Nat.mul_le_mul_right _ hsum
    _ = fromMillis later + asMillis (LifecycleMachine.backoffDelay policy attempt) * 10 ^ 6 :=
        Nat.add_mul _ _ _
    _ ≤ fromMillis later + policy.maxDelay := Nat.add_le_add_left (hmillis.trans hdelay) _

lemma stable_iff {m : LifecycleMachine} {readyAt : Option ℕ}
    (hready : m.readySinceMillis = readyAt) (now later : ℕ) (outcome : LifecycleState) :
    m.stable now = true ↔ (Crash.mk readyAt now later outcome).Stable := by
  unfold LifecycleMachine.stable Crash.Stable
  rw [hready]
  cases readyAt with
  | none => simp
  | some since =>
    have hwindow : stableWindowMillis ≤ now - since ↔ since + 30000 ≤ now := by
      unfold stableWindowMillis
      omega
    simp [hwindow]

lemma Budgeted.crash (hb : Budgeted policy h) (hmax : policy.maxAttempts < u32Max)
    (hactive : h.machine.Active) (now later : ℕ) :
    Budgeted policy (h.after (.recordCrash h.machine.generation) now later) := by
  have hrunning := LifecycleMachine.not_terminal_of_active hactive
  have hcrash := LifecycleMachine.recordCrash_of_active rfl hactive now later
  have hbudget := hb.budget hrunning
  -- the new value of the counter is the new count
  have hcount : ∀ outcome, h.machine.nextAttempt now =
      crashCount (h.crashes ++ [⟨h.readyAt, now, later, outcome⟩]) := by
    intro outcome
    rw [crashCount_concat, ← hb.attempts, LifecycleMachine.nextAttempt, saturatingAddTo]
    have hstable := stable_iff (hb.ready hrunning) now later outcome
    by_cases hwindow : h.machine.stable now = true
    · rw [if_pos hwindow, if_pos (hstable.mp hwindow)]
      exact Nat.min_eq_left (by omega)
    · rw [if_neg hwindow, if_neg (fun hc => hwindow (hstable.mpr hc))]
      exact Nat.min_eq_left (by omega)
  have hattempt : h.machine.nextAttempt now ≤ policy.maxAttempts + 1 := by
    rw [LifecycleMachine.nextAttempt, saturatingAddTo]
    split_ifs <;> omega
  simp only [after, LifecycleMachine.after, hactive, and_self, if_true]
  rw [hcrash, hb.same]
  split_ifs with hover
  · refine ⟨rfl, hcount _, hattempt, fun hrun => absurd (Or.inl rfl) hrun,
      fun hrun => absurd (Or.inl rfl) hrun, by rintro ⟨⟩, hb.settles.concat ?_⟩
    rw [← hcount, outcomeAt, if_pos hover]
  · refine ⟨rfl, hcount _, hattempt, fun _ => Nat.le_of_not_lt hover,
      fun _ => hb.ready hrunning, fun _ => ⟨?_, Nat.le_of_not_lt hover, _, _,
        List.getLast?_concat, rfl, rfl, deadline_le policy _ later⟩, hb.settles.concat ?_⟩
    · have := crashCount_concat_pos h.crashes ⟨h.readyAt, now, later, .backoff⟩
      rw [← hcount] at this
      exact this
    · rw [← hcount, outcomeAt, if_neg hover]

lemma Budgeted.started (hb : Budgeted policy h) (hstate : ¬ h.machine.Terminal) (clock : ℕ) :
    Budgeted policy ⟨h.machine.started, clock, none, h.crashes⟩ :=
  hb.move rfl rfl (fun hold => absurd hold hstate) (fun _ => rfl) (by rintro ⟨⟩)

/-- **Every operation keeps the budget.** -/
theorem Budgeted.after (hb : Budgeted policy h) (hmax : policy.maxAttempts < u32Max)
    (call : Call) (now later : ℕ) : Budgeted policy (h.after call now later) := by
  cases call with
  | beginStart =>
    rcases h.machine.beginStart_cases now later with ⟨hstate, hstart⟩ | ⟨e, hstart⟩
    · have hrunning : ¬ h.machine.Terminal := by
        rcases hstate with hstate | hstate <;> simp [LifecycleMachine.Terminal, hstate]
      simp only [LifecycleHistory.after, LifecycleMachine.after, hstart, Except.toBool, if_true]
      exact hb.started hrunning later
    · simp only [LifecycleHistory.after, LifecycleMachine.after, hstart, Except.toBool,
        Bool.false_eq_true, if_false]
      exact hb.tick later
  | markReady generation =>
    simp only [LifecycleHistory.after, LifecycleMachine.after, LifecycleMachine.markReady]
    by_cases hrefused : generation ≠ h.machine.generation ∨ h.machine.state ≠ .starting
    · simp only [if_pos hrefused, Except.toBool, Bool.false_eq_true, if_false]
      exact hb.tick later
    · have hstate : h.machine.state = .starting := by
        by_contra hne
        exact hrefused (Or.inr hne)
      simp only [if_neg hrefused, Except.toBool, if_true]
      exact hb.move rfl rfl (by simp [LifecycleMachine.Terminal, hstate]) (fun _ => rfl)
        (by rintro ⟨⟩)
  | markBusy generation =>
    simp only [LifecycleHistory.after, LifecycleMachine.after, LifecycleMachine.markBusy]
    split_ifs with hrefused
    · exact hb.tick later
    · have hstate : h.machine.state = .ready := by
        by_contra hne
        exact hrefused (Or.inr hne)
      have hrunning : ¬ h.machine.Terminal := by simp [LifecycleMachine.Terminal, hstate]
      exact hb.move rfl rfl (fun hold => absurd hold hrunning) (fun _ => hb.ready hrunning)
        (by rintro ⟨⟩)
  | markReadyAgain generation =>
    simp only [LifecycleHistory.after, LifecycleMachine.after, LifecycleMachine.markReadyAgain]
    split_ifs with hrefused
    · exact hb.tick later
    · have hstate : h.machine.state = .busy := by
        by_contra hne
        exact hrefused (Or.inr hne)
      have hrunning : ¬ h.machine.Terminal := by simp [LifecycleMachine.Terminal, hstate]
      exact hb.move rfl rfl (fun hold => absurd hold hrunning) (fun _ => hb.ready hrunning)
        (by rintro ⟨⟩)
  | beginStop generation =>
    simp only [LifecycleHistory.after, LifecycleMachine.after, LifecycleMachine.beginStop]
    split_ifs with hrefused
    · exact hb.tick later
    · have hrunning : ¬ h.machine.Terminal := by
        by_contra hterminal
        exact hrefused (Or.inr fun hactive =>
          LifecycleMachine.not_terminal_of_active hactive hterminal)
      exact hb.move rfl rfl (fun hold => absurd hold hrunning) (fun _ => hb.ready hrunning)
        (by rintro ⟨⟩)
  | markExited generation =>
    simp only [LifecycleHistory.after, LifecycleMachine.after, LifecycleMachine.markExited]
    split_ifs with hrefused
    · exact hb.tick later
    · have hrunning : ¬ h.machine.Terminal := fun hterminal => hrefused (Or.inr hterminal)
      exact hb.move rfl rfl (fun hold => absurd hold hrunning) (fun _ => hb.ready hrunning)
        (by rintro ⟨⟩)
  | markIncompatible generation =>
    simp only [LifecycleHistory.after, LifecycleMachine.after, LifecycleMachine.markIncompatible]
    split_ifs
    · exact hb.tick later
    · exact hb.move rfl rfl (fun _ => Or.inr rfl) (fun hrun => absurd (Or.inr rfl) hrun)
        (by rintro ⟨⟩)
  | markFaulted generation =>
    simp only [LifecycleHistory.after, LifecycleMachine.after, LifecycleMachine.markFaulted]
    split_ifs
    · exact hb.tick later
    · exact hb.move rfl rfl (fun _ => Or.inl rfl) (fun hrun => absurd (Or.inl rfl) hrun)
        (by rintro ⟨⟩)
  | recordCrash generation =>
    by_cases hcounts : generation = h.machine.generation ∧ h.machine.Active
    · obtain ⟨rfl, hactive⟩ := hcounts
      exact hb.crash hmax hactive now later
    · simp only [LifecycleHistory.after, LifecycleMachine.after,
        LifecycleMachine.recordCrash_of_not hcounts, if_neg hcounts]
      exact hb.tick later

/-- The budget in every reachable history. -/
theorem budgeted_of_reachable (hmax : policy.maxAttempts < u32Max) (h : LifecycleHistory)
    (hreach : Reachable policy h) : Budgeted policy h := by
  obtain ⟨m, actions, hm, hrun⟩ := hreach
  refine hrun.stateInvariant ?_ ?_
  · unfold LifecycleMachine.withClock at hm
    split at hm
    · cases hm
      exact ⟨rfl, rfl, Nat.zero_le _, fun _ => Nat.zero_le _, fun _ => rfl, by rintro ⟨⟩,
        fun pre c post heq => by simp [start] at heq⟩
    · cases hm
  · rintro h ⟨call, now, later⟩ h' hb ⟨-, -, rfl⟩
    exact hb.after hmax call now later

end LifecycleHistory

/-! ## Terminal states -/

namespace LifecycleMachine

variable {m : LifecycleMachine}

lemma terminal_after (h : m.Terminal) (call : Call) (now later : ℕ) :
    (m.after call now later).Terminal := by
  have hactive : ¬ m.Active := fun hactive => not_terminal_of_active hactive h
  have hstate : m.state = .faulted ∨ m.state = .incompatible := h
  cases call with
  | beginStart =>
    rcases hstate with hstate | hstate <;> simpa [after, beginStart, hstate] using h
  | markReady generation =>
    rcases hstate with hstate | hstate <;> simpa [after, markReady, hstate] using h
  | markBusy generation =>
    rcases hstate with hstate | hstate <;> simpa [after, markBusy, hstate] using h
  | markReadyAgain generation =>
    rcases hstate with hstate | hstate <;> simpa [after, markReadyAgain, hstate] using h
  | beginStop generation => simpa [after, beginStop, hactive] using h
  | markExited generation => simp [after, markExited, h]
  | markIncompatible generation =>
    simp only [after, markIncompatible]
    split_ifs
    · exact h
    · exact Or.inr rfl
  | markFaulted generation =>
    simp only [after, markFaulted]
    split_ifs
    · exact h
    · exact Or.inl rfl
  | recordCrash generation => simp [after, recordCrash, h]

lemma beginStart_of_terminal (h : m.Terminal) (now later generation : ℕ) :
    (m.beginStart now later).1 ≠ .ok generation := by
  rcases h with hstate | hstate <;> simp [beginStart, hstate]

end LifecycleMachine

namespace LifecycleHistory

variable {policy : RestartPolicy} {h : LifecycleHistory}

/-- **The lifecycle of the sidecar.**  In every history that a sequence of operations with a
monotone clock produces: the counter stays in the budget; a machine in `backoff` has counted a
crash, and its deadline lies at most `maxDelay` after it; among crashes of which only the first
may have hit a stable instance at most `maxAttempts` lead to `backoff` and the next one leads to
`faulted`; a terminal machine stays terminal and starts no generation; and an operation about
another generation changes nothing. -/
theorem crash_budget (hmax : policy.maxAttempts < 2 ^ 32 - 1) (hreach : Reachable policy h) :
    h.machine.restartAttempt ≤ policy.maxAttempts + 1 ∧
    (h.machine.state = .backoff → h.Waiting policy) ∧
    (∀ pre window post, h.crashes = pre ++ window ++ post → EarlyAfterFirst window →
      window.countP (fun c => c.outcome = .backoff) ≤ policy.maxAttempts ∧
      ∀ c rest, post = c :: rest → ¬ c.Stable →
        window.countP (fun c => c.outcome = .backoff) = policy.maxAttempts →
        c.outcome = .faulted) ∧
    (h.machine.Terminal → ∀ actions h', Run Step h actions h' →
      h'.machine.Terminal ∧
        ∀ now later generation, (h'.machine.beginStart now later).1 ≠ .ok generation) ∧
    ∀ call generation now later, LifecycleMachine.Call.generation call = some generation →
      generation ≠ h.machine.generation → h.machine.after call now later = h.machine := by
  have hb := budgeted_of_reachable hmax h hreach
  refine ⟨hb.limit, hb.waiting, ?_, ?_, ?_⟩
  · intro pre window post hcrashes hearly
    refine ⟨(hb.settles.countP_le hcrashes hearly).1, ?_⟩
    rintro c rest rfl hstable hcount
    exact hb.settles.outcome_next hcrashes hearly hstable hcount
  · intro hterminal actions h' hrun
    have hstays : h'.machine.Terminal := by
      refine hrun.stateInvariant (I := fun g => g.machine.Terminal) hterminal ?_
      rintro g ⟨call, now, later⟩ g' hg ⟨-, -, rfl⟩
      exact LifecycleMachine.terminal_after hg call now later
    exact ⟨hstays, LifecycleMachine.beginStart_of_terminal hstays⟩
  · intro call generation now later hcall hstale
    exact LifecycleMachine.after_of_stale hcall hstale now later

/-- The first instance crashes five milliseconds after its start. -/
def crashedOnce : LifecycleHistory :=
  let m : LifecycleMachine := ⟨.exited, 0, 0, none, none, .default⟩
  ((start m).after .beginStart 0 0).after (.recordCrash 1) 5 5

/-- The machine then waits. -/
theorem crash_budget_crashedOnce :
    Reachable .default crashedOnce ∧ crashedOnce.machine.state = .backoff ∧
      crashedOnce.Waiting .default := by
  have hreach : Reachable .default crashedOnce := by
    refine ⟨_, [(.beginStart, 0, 0), (.recordCrash 1, 5, 5)], rfl, ?_⟩
    exact (Run.nil.snoc ⟨Nat.zero_le _, Nat.zero_le _, rfl⟩).snoc
      ⟨Nat.zero_le _, Nat.le_refl _, rfl⟩
  exact ⟨hreach, rfl, (crash_budget (by decide) hreach).2.1 rfl⟩

end LifecycleHistory

end JaDesktop.Host
