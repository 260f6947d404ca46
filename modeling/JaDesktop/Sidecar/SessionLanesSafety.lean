import Mathlib.Algebra.BigOperators.Group.Finset.Basic
import Mathlib.Algebra.BigOperators.Intervals
import JaDesktop.Sidecar.SessionLanesHistory

/-!
# What the lanes guarantee

The counters of admission are sums over the runs that have not given their place back, so they stay
within the limits of the configuration and go back to zero.  Together with the places and the order
of the runs this says what every interleaving of the threads keeps.
-/

namespace JaDesktop.Sidecar

variable {κ : Type}

/-- The place of a run in `acceptedCount`, until `finish` gives it back. -/
def TurnRun.acceptedTurns (v : TurnRun κ) : ℤ :=
  match v.release with
  | .idle | .claimed | .unregistered => 1
  | .uncounted | .unbilled | .left => 0

/-- The share of a run in `acceptedInputBytes`, until `finish` gives it back. -/
def TurnRun.acceptedBytes (v : TurnRun κ) : ℤ :=
  match v.release with
  | .idle | .claimed | .unregistered | .uncounted => v.inputBytes
  | .unbilled | .left => 0

namespace LaneRuntime

/-- The sum of a quantity over the runs that have been admitted. -/
def total (s : LaneRuntime κ) (weigh : TurnRun κ → ℤ) : ℤ :=
  ∑ run ∈ Finset.range s.admitted, (s.runs run).elim 0 weigh

variable {config : LaneConfig} {s t : LaneRuntime κ} {run : ℕ} {v v' : TurnRun κ}
  {weigh : TurnRun κ → ℤ}

lemma total_of_write (hrun : run < s.admitted) (hv : s.runs run = some v)
    (hadmitted : t.admitted = s.admitted)
    (hruns : ∀ other, t.runs other = if other = run then some v' else s.runs other) :
    t.total weigh = s.total weigh + (weigh v' - weigh v) := by
  have hmem : run ∈ Finset.range s.admitted := Finset.mem_range.mpr hrun
  have hothers : ∑ other ∈ (Finset.range s.admitted).erase run, (t.runs other).elim 0 weigh =
      ∑ other ∈ (Finset.range s.admitted).erase run, (s.runs other).elim 0 weigh := by
    refine Finset.sum_congr rfl fun other hother => ?_
    rw [hruns, if_neg (Finset.ne_of_mem_erase hother)]
  unfold total
  rw [hadmitted, ← Finset.add_sum_erase _ (fun other => (t.runs other).elim 0 weigh) hmem,
    ← Finset.add_sum_erase _ (fun other => (s.runs other).elim 0 weigh) hmem, hothers, hruns,
    if_pos rfl, hv]
  simp only [Option.elim_some]
  omega

lemma total_of_same (hrun : run < s.admitted) (hv : s.runs run = some v)
    (hadmitted : t.admitted = s.admitted)
    (hruns : ∀ other, t.runs other = if other = run then some v' else s.runs other)
    (hsame : weigh v' = weigh v) : t.total weigh = s.total weigh := by
  rw [total_of_write hrun hv hadmitted hruns, hsame]
  omega

lemma total_of_add (hadmitted : t.admitted = s.admitted + 1)
    (hruns : ∀ other, t.runs other = if other = s.admitted then some v else s.runs other) :
    t.total weigh = s.total weigh + weigh v := by
  have hothers : ∑ other ∈ Finset.range s.admitted, (t.runs other).elim 0 weigh =
      ∑ other ∈ Finset.range s.admitted, (s.runs other).elim 0 weigh := by
    refine Finset.sum_congr rfl fun other hother => ?_
    rw [hruns, if_neg (Nat.ne_of_lt (Finset.mem_range.mp hother))]
  unfold total
  rw [hadmitted, Finset.sum_range_succ, hothers, hruns, if_pos rfl, Option.elim_some]

/-- The counters are the sums, within the limits. -/
structure Counted (config : LaneConfig) (s : LaneRuntime κ) : Prop where
  count_eq : s.acceptedCount = s.total TurnRun.acceptedTurns
  bytes_eq : s.acceptedInputBytes = s.total TurnRun.acceptedBytes
  count_le : s.acceptedCount ≤ config.maxAcceptedTurns
  bytes_le : s.acceptedInputBytes ≤ config.maxQueuedInputBytes

lemma counted_initial : Counted config (initial κ) := by
  constructor <;> simp [initial, total]

/-- A write that takes nothing from the counters and gives nothing to them. -/
lemma Counted.of_same (h : s.Counted config) (hrun : run < s.admitted) (hv : s.runs run = some v)
    (hadmitted : t.admitted = s.admitted)
    (hruns : ∀ other, t.runs other = if other = run then some v' else s.runs other)
    (hturns : v'.acceptedTurns = v.acceptedTurns) (hbytes : v'.acceptedBytes = v.acceptedBytes)
    (hcount : t.acceptedCount = s.acceptedCount)
    (hinput : t.acceptedInputBytes = s.acceptedInputBytes) : t.Counted config where
  count_eq := by
    rw [hcount, h.count_eq, total_of_same hrun hv hadmitted hruns hturns]
  bytes_eq := by
    rw [hinput, h.bytes_eq, total_of_same hrun hv hadmitted hruns hbytes]
  count_le := hcount ▸ h.count_le
  bytes_le := hinput ▸ h.bytes_le

lemma Placed.one_running (h : s.Placed) {run' : ℕ} (hv : s.runs run = some v)
    (hv' : s.runs run' = some v') (hkey : v.sessionKey = v'.sessionKey)
    (htaken : v.position = .taken) (htaken' : v'.position = .taken)
    (hfinished : v.finished = false) (hfinished' : v'.finished = false) : run = run' := by
  have hstays : ∀ {run v}, s.runs run = some v → v.finished = false → v.release ≠ .left := by
    intro run v hv hfinished hleft
    rw [(h.laid.sound run v hv).finished_iff.mpr (by simp [hleft])] at hfinished
    cases hfinished
  obtain ⟨lane, hlane, hrunning⟩ := h.laid.taken run v hv htaken (hstays hv hfinished)
  obtain ⟨lane', hlane', hrunning'⟩ := h.laid.taken run' v' hv' htaken' (hstays hv' hfinished')
  obtain rfl : lane = lane' := Option.some.inj (hlane.symm.trans (hkey ▸ hlane'))
  exact Option.some.inj (hrunning.symm.trans hrunning')

lemma total_eq_zero (hweigh : ∀ run v, s.runs run = some v → weigh v = 0) :
    s.total weigh = 0 := by
  refine Finset.sum_eq_zero fun run _ => ?_
  cases hrun : s.runs run with
  | none => rfl
  | some v => exact hweigh run v hrun

lemma drained_of_left (hplaced : s.Placed) (hcounted : s.Counted config)
    (hleft : ∀ run v, s.runs run = some v → v.release = .left) :
    (∀ key, s.lanes key = none) ∧ s.acceptedCount = 0 ∧ s.acceptedInputBytes = 0 := by
  refine ⟨?_, ?_, ?_⟩
  · intro key
    by_contra hsome
    obtain ⟨lane, hlane⟩ := Option.ne_none_iff_exists'.mp hsome
    obtain ⟨run, v, hv, -, hstays⟩ := hplaced.used key lane hlane
    exact hstays (hleft run v hv)
  · rw [hcounted.count_eq]
    exact total_eq_zero fun run v hv => by simp [TurnRun.acceptedTurns, hleft run v hv]
  · rw [hcounted.bytes_eq]
    exact total_eq_zero fun run v hv => by simp [TurnRun.acceptedBytes, hleft run v hv]

section History

variable {view : ℕ → Option (RunView κ)} {history past rest : List (LaneEvent κ)} {key : κ}

lemma Recorded.in_order (h : Recorded view history)
    (hsplit : history = past ++ .taken key run :: rest) :
    ∃ before after, past = before ++ .admitted key run :: after ∧
      ∀ other, .admitted key other ∈ before →
        .taken key other ∈ past ∨ .withdrawn other ∈ past := by
  obtain ⟨hadmitted, -, -, -, hearlier⟩ := h.justified past _ rest hsplit
  obtain ⟨before, after, rfl⟩ := List.append_of_mem hadmitted
  refine ⟨before, after, rfl, ?_⟩
  intro other hother
  -- Whoever was admitted before has a smaller number.
  have hlt : other < run := by
    refine h.justified before (.admitted key run) (after ++ .taken key run :: rest) ?_ key other
      hother
    rw [hsplit, List.append_assoc, List.cons_append]
  exact hearlier other hlt (List.mem_append_left _ hother)

lemma Recorded.not_taken (h : Recorded view history) (hwithdrawn : .withdrawn run ∈ history) :
    .taken key run ∉ history := by
  intro htaken
  obtain ⟨x, hx, hposition⟩ := (h.withdrawn run).mp hwithdrawn
  obtain ⟨x', hx', -, hposition'⟩ := (h.taken key run).mp htaken
  obtain rfl := Option.some.inj (hx.symm.trans hx')
  rw [hposition] at hposition'
  cases hposition'

lemma Recorded.published_after (h : Recorded view history)
    (hsplit : history = past ++ .published run :: rest) :
    .withdrawn run ∈ past ∨ ∃ key before after, past = before ++ .taken key run :: after ∧
      ∀ other, .taken key other ∈ before → .finished other ∈ before := by
  rcases h.justified past _ rest hsplit with ⟨key, htaken⟩ | hwithdrawn
  · obtain ⟨before, after, rfl⟩ := List.append_of_mem htaken
    refine Or.inr ⟨key, before, after, rfl, ?_⟩
    refine (h.justified before (.taken key run) (after ++ .published run :: rest) ?_).2.2.2.1
    rw [hsplit, List.append_assoc, List.cons_append]
  · exact Or.inl hwithdrawn

end History

variable [DecidableEq κ]

/-- **The counters are kept** by every step. -/
theorem Counted.step (hplaced : s.Placed) (h : s.Counted config) (hstep : Stepped config s t) :
    t.Counted config := by
  have hlt : ∀ {run : ℕ} {v : TurnRun κ}, s.runs run = some v → run < s.admitted :=
    fun hv => (hplaced.numbered _).mp ⟨_, hv⟩
  cases hstep with
  | gate accepting => exact ⟨h.count_eq, h.bytes_eq, h.count_le, h.bytes_le⟩
  | refuse key inputBytes =>
    -- The refused run has given its place back before the section ends.
    rw [record_leave]
    set t := ((s.admitting key).setRun s.admitted (.refused key inputBytes)).leave key
      s.admitted with ht
    have hadmitted : t.admitted = s.admitted + 1 := by
      rw [ht, admitted_leave]
      exact admitted_admitting key
    have hruns : ∀ other, t.runs other =
        if other = s.admitted then some (.refused key inputBytes) else s.runs other := by
      intro other
      rw [ht, runs_leave, runs_setRun, runs_admitting]
    have hcount : t.acceptedCount = s.acceptedCount := by
      rw [ht, acceptedCount_leave]
      exact acceptedCount_admitting key
    have hinput : t.acceptedInputBytes = s.acceptedInputBytes := by
      rw [ht, acceptedInputBytes_leave]
      exact acceptedInputBytes_admitting key
    constructor
    · change t.acceptedCount = t.total _
      rw [hcount, total_of_add hadmitted hruns, h.count_eq]
      exact (Int.add_zero _).symm
    · change t.acceptedInputBytes = t.total _
      rw [hinput, total_of_add hadmitted hruns, h.bytes_eq]
      exact (Int.add_zero _).symm
    · exact le_of_eq_of_le hcount h.count_le
    · exact le_of_eq_of_le hinput h.bytes_le
  | enter key inputBytes hroom =>
    set t : LaneRuntime κ := { ((s.admitting key).setRun s.admitted
        { sessionKey := key, inputBytes := inputBytes }).setLane (s.admittingLane key)
          { s.laneAt (s.admittingLane key) with
            queue := (s.laneAt (s.admittingLane key)).queue ++ [s.admitted] } with
      acceptedCount := s.acceptedCount + 1
      acceptedInputBytes := s.acceptedInputBytes + inputBytes
      history := s.history ++ [.admitted key s.admitted] } with ht
    have hadmitted : t.admitted = s.admitted + 1 := admitted_admitting key
    have hruns : ∀ other, t.runs other = if other = s.admitted then
        some { sessionKey := key, inputBytes := inputBytes } else s.runs other := by
      intro other
      exact (runs_setRun _ _ _ _).trans (by rw [runs_admitting])
    -- The limits have been checked in the same section.
    unfold QueueFull at hroom
    push Not at hroom
    obtain ⟨hturns, -, hbytes⟩ := hroom
    constructor
    · rw [total_of_add hadmitted hruns, ← h.count_eq]
      rfl
    · rw [total_of_add hadmitted hruns, ← h.bytes_eq]
      rfl
    · exact hturns
    · exact hbytes
  | take lane run v queue hqueue hidle hout =>
    exact h.of_same (hlt hout.runs_eq) hout.runs_eq rfl (fun other => runs_unqueue ..) rfl rfl
      rfl rfl
  | withdraw lane run v hout =>
    exact h.of_same (hlt hout.runs_eq) hout.runs_eq rfl (fun other => runs_unqueue ..) rfl rfl
      rfl rfl
  | change run v v' hv hquiet hfinished hrelease =>
    have hsame : v'.acceptedTurns = v.acceptedTurns ∧ v'.acceptedBytes = v.acceptedBytes := by
      unfold TurnRun.acceptedTurns TurnRun.acceptedBytes
      rw [hquiet.inputBytes]
      rcases hrelease with hrelease | ⟨hold, hnew⟩
      · rw [hrelease]
        exact ⟨rfl, rfl⟩
      · rw [hold, hnew]
        exact ⟨rfl, rfl⟩
    exact h.of_same (hlt hv) hv rfl (fun other => runs_setRun ..) hsame.1 hsame.2 rfl rfl
  | publish run v hv hposition => exact ⟨h.count_eq, h.bytes_eq, h.count_le, h.bytes_le⟩
  | finish run v hv hquiet hrelease =>
    refine h.of_same (hlt hv) hv rfl (fun other => runs_setRun ..) ?_ ?_ rfl rfl
    · simp [TurnRun.acceptedTurns, hrelease]
    · simp [TurnRun.acceptedBytes, hrelease]
  | uncount run v hv hquiet hrelease =>
    have htotal : ∀ weigh, ({ s.setRun run { v with release := .uncounted } with
        acceptedCount := s.acceptedCount - 1 } : LaneRuntime κ).total weigh =
          s.total weigh + (weigh { v with release := .uncounted } - weigh v) :=
      fun weigh => total_of_write (hlt hv) hv rfl fun other => runs_setRun ..
    constructor
    · rw [htotal, ← h.count_eq]
      simp [TurnRun.acceptedTurns, hrelease, Int.sub_eq_add_neg]
    · rw [htotal, ← h.bytes_eq]
      simp [TurnRun.acceptedBytes, hrelease, setRun]
    · exact le_trans (Int.sub_le_self _ (by decide)) h.count_le
    · exact h.bytes_le
  | unbill run v hv hquiet hrelease =>
    have htotal : ∀ weigh, ({ s.setRun run { v with release := .unbilled } with
        acceptedInputBytes := s.acceptedInputBytes - v.inputBytes } : LaneRuntime κ).total weigh =
          s.total weigh + (weigh { v with release := .unbilled } - weigh v) :=
      fun weigh => total_of_write (hlt hv) hv rfl fun other => runs_setRun ..
    constructor
    · rw [htotal, ← h.count_eq]
      simp [TurnRun.acceptedTurns, hrelease, setRun]
    · rw [htotal, ← h.bytes_eq]
      simp [TurnRun.acceptedBytes, hrelease, Int.sub_eq_add_neg]
    · exact h.count_le
    · exact le_trans (Int.sub_le_self _ (Int.natCast_nonneg _)) h.bytes_le
  | leave run v hout hrelease =>
    have hruns (other : ℕ) :
        ((s.setRun run { v with release := .left }).leave v.sessionKey run).runs other =
          if other = run then some { v with release := .left } else s.runs other := by
      rw [runs_leave, runs_setRun]
    refine h.of_same (hlt hout.runs_eq) hout.runs_eq ?_ hruns ?_ ?_ ?_ ?_
    · exact admitted_leave ..
    · simp [TurnRun.acceptedTurns, hrelease]
    · simp [TurnRun.acceptedBytes, hrelease]
    · exact acceptedCount_leave ..
    · exact acceptedInputBytes_leave ..

theorem counted_reached (actions : List (LaneAction κ)) :
    (reached config actions).Counted config := by
  have hboth : (reached config actions).Placed ∧ (reached config actions).Counted config := by
    refine List.foldlRecOn actions _
      (motive := fun s : LaneRuntime κ => s.Placed ∧ s.Counted config)
      ⟨placed_initial, counted_initial⟩ ?_
    rintro s ⟨hplaced, h⟩ action -
    have hstep : Stepped config s (s.after config action) := stepped_after hplaced.laid action
    exact ⟨hplaced.step hstep, h.step hplaced hstep⟩
  exact hboth.2

/-! ## Every interleaving -/

/-- What holds of the lanes at every moment. -/
structure Safe (config : LaneConfig) (s : LaneRuntime κ) : Prop where
  /-- One unfinished run of a session at most has been taken. -/
  one_running : ∀ run run' v v', s.runs run = some v → s.runs run' = some v' →
    v.sessionKey = v'.sessionKey → v.position = .taken → v'.position = .taken →
    v.finished = false → v'.finished = false → run = run'
  /-- A run is taken after the runs of its session that were admitted before it, but for those
  that were withdrawn. -/
  in_order : ∀ past key run rest, s.history = past ++ .taken key run :: rest →
    ∃ before after, past = before ++ .admitted key run :: after ∧
      ∀ other, .admitted key other ∈ before → .taken key other ∈ past ∨ .withdrawn other ∈ past
  /-- A withdrawn run was cancelled while it was queued, or refused, and is never taken. -/
  withdrawn : ∀ run, .withdrawn run ∈ s.history → (∀ key, .taken key run ∉ s.history) ∧
    ∃ v, s.runs run = some v ∧ (v.cancelled = true ∨ v.schedulerRejected = true)
  /-- What a taken run publishes comes after the end of every run of its session taken before. -/
  published : ∀ past run rest, s.history = past ++ .published run :: rest →
    .withdrawn run ∈ past ∨ ∃ key before after, past = before ++ .taken key run :: after ∧
      ∀ other, .taken key other ∈ before → .finished other ∈ before
  counted : s.Counted config
  /-- When all runs have left, nothing of them remains. -/
  drained : (∀ run v, s.runs run = some v → v.release = .left) →
    (∀ key, s.lanes key = none) ∧ s.acceptedCount = 0 ∧ s.acceptedInputBytes = 0

/-- **The lanes keep the order of every session**, whatever the threads do: one run at a time, in
the order of admission, with its events after the end of those before it, and with counters that
stay within the limits and return to zero. -/
theorem lanes_safe (config : LaneConfig) (actions : List (LaneAction κ)) :
    Safe config (reached config actions) where
  one_running run run' v v' hv hv' hkey htaken htaken' hfinished hfinished' :=
    (placed_reached actions).one_running hv hv' hkey htaken htaken' hfinished hfinished'
  in_order past key run rest hsplit := (recorded_reached actions).in_order hsplit
  withdrawn run hwithdrawn := by
    have hrecorded : Recorded (reached config actions).view _ := recorded_reached actions
    refine ⟨fun key => hrecorded.not_taken hwithdrawn, ?_⟩
    obtain ⟨x, hx, hposition⟩ := (hrecorded.withdrawn run).mp hwithdrawn
    obtain ⟨v, hv, rfl⟩ := view_eq_some.mp hx
    exact ⟨v, hv, ((placed_reached actions).laid.sound run v hv).withdrawn_cancelled hposition⟩
  published past run rest hsplit := (recorded_reached actions).published_after hsplit
  counted := counted_reached actions
  drained := drained_of_left (placed_reached actions) (counted_reached actions)

/-- A run that is cancelled while it is queued publishes its end at once, although the run of its
session that was taken before it has not finished. -/
theorem cancelled_published_early :
    ∃ (actions : List (LaneAction ℕ)) (past rest : List (LaneEvent ℕ)),
      (reached ⟨2, 100⟩ actions).history = past ++ .published 1 :: rest ∧
        .published 1 ∉ past ∧ .admitted 7 1 ∈ past ∧ .taken 7 0 ∈ past ∧ .finished 0 ∉ past :=
  ⟨[.start 7 10 false, .scheduleNext 0, .start 7 10 false, .cancel 1, .findLane 1, .dequeue 1,
      .finish 1, .terminal 1],
    [.admitted 7 0, .taken 7 0, .admitted 7 1, .withdrawn 1, .finished 1], [],
    by decide, by decide, by decide, by decide, by decide⟩

end LaneRuntime

end JaDesktop.Sidecar
