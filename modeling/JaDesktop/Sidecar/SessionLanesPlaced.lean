import Mathlib.Data.List.Basic
import Mathlib.Data.List.Pairwise
import JaDesktop.Sidecar.SessionLanes

/-!
# Where the runs are

Every run that waits is in the queue of the lane that the map holds for its session, every run that
was taken and has not left is the running one of this lane, and a lane in the map has a run that has
not left.  In particular a lane that has left the map is empty and stays empty.
-/

namespace JaDesktop.Sidecar

variable {κ : Type} {v v' : TurnRun κ} {run : ℕ}

/-- What the fields of a run say about one another. -/
structure TurnRun.Sound (v : TurnRun κ) : Prop where
  finished_iff : v.finished = true ↔ v.release ≠ .idle
  finished_placed : v.finished = true → v.position ≠ .queued
  done_placed : v.cancelling = .done → v.position ≠ .queued
  started_taken : v.started = true → v.position = .taken
  marked_cancelled : v.cancelling ≠ .idle → v.cancelled = true
  withdrawn_cancelled : v.position = .withdrawn → v.cancelled = true ∨ v.schedulerRejected = true

namespace LaneRuntime

/-- The runs are numbered from zero. -/
def Numbered (s : LaneRuntime κ) : Prop := ∀ run, (∃ v, s.runs run = some v) ↔ run < s.admitted

/-- The queues and the running runs, against the runs themselves. -/
structure Laid (s : LaneRuntime κ) : Prop where
  sound : ∀ run v, s.runs run = some v → v.Sound
  lane_lt : ∀ key lane, s.lanes key = some lane → lane < s.created
  lane_inj : ∀ key key' lane, s.lanes key = some lane → s.lanes key' = some lane → key = key'
  queue : ∀ lane, ∀ run ∈ (s.laneAt lane).queue, ∃ v, s.runs run = some v ∧
    v.position = .queued ∧ s.lanes v.sessionKey = some lane
  sorted : ∀ lane, (s.laneAt lane).queue.Pairwise (· < ·)
  running : ∀ lane run, (s.laneAt lane).running = some run → ∃ v, s.runs run = some v ∧
    v.position = .taken ∧ v.release ≠ .left ∧ s.lanes v.sessionKey = some lane
  queued : ∀ run v, s.runs run = some v → v.position = .queued →
    ∃ lane, s.lanes v.sessionKey = some lane ∧ run ∈ (s.laneAt lane).queue
  taken : ∀ run v, s.runs run = some v → v.position = .taken → v.release ≠ .left →
    ∃ lane, s.lanes v.sessionKey = some lane ∧ (s.laneAt lane).running = some run
  found : ∀ run v lane, s.runs run = some v → v.cancelling = .found lane →
    v.position = .queued → s.lanes v.sessionKey = lane

/-- A lane in the map belongs to a run that has not left. -/
def Used (s : LaneRuntime κ) (key : κ) : Prop :=
  ∀ lane, s.lanes key = some lane →
    ∃ run v, s.runs run = some v ∧ v.sessionKey = key ∧ v.release ≠ .left

/-- All of it. -/
structure Placed (s : LaneRuntime κ) : Prop where
  numbered : s.Numbered
  laid : s.Laid
  used : ∀ key, s.Used key

variable {s : LaneRuntime κ} {key : κ} {lane : ℕ}

lemma placed_initial : Placed (initial κ) where
  numbered run := by simp [initial]
  laid := by constructor <;> simp [initial]
  used key lane h := by simp [initial] at h

lemma Laid.not_finished (h : s.Laid) (hv : s.runs run = some v) (hqueued : v.position = .queued) :
    v.finished = false ∧ v.release = .idle := by
  have hsound := h.sound run v hv
  have hnot : v.finished = false := by
    by_contra hfinished
    exact hsound.finished_placed (by simpa using hfinished) hqueued
  refine ⟨hnot, ?_⟩
  by_contra hrelease
  rw [hsound.finished_iff.mpr hrelease] at hnot
  cases hnot

lemma Laid.not_mem_queue (h : s.Laid) (hv : s.runs run = some v) (hplaced : v.position ≠ .queued)
    (lane : ℕ) : run ∉ (s.laneAt lane).queue := by
  intro hmem
  obtain ⟨v', hv', hqueued, -⟩ := h.queue lane run hmem
  obtain rfl := Option.some.inj (hv.symm.trans hv')
  exact hplaced hqueued

@[simp] lemma runs_setRun (s : LaneRuntime κ) (run other : ℕ) (v : TurnRun κ) :
    (s.setRun run v).runs other = if other = run then some v else s.runs other :=
  Function.update_apply ..

@[simp] lemma laneAt_setLane (s : LaneRuntime κ) (lane other : ℕ) (value : SessionLane) :
    (s.setLane lane value).laneAt other = if other = lane then value else s.laneAt other :=
  Function.update_apply ..

lemma Laid.mem_queue_iff (h : s.Laid) (hv : s.runs run = some v) (lane : ℕ) :
    run ∈ (s.laneAt lane).queue ↔ v.position = .queued ∧ s.lanes v.sessionKey = some lane := by
  constructor
  · intro hmem
    obtain ⟨v', hv', hplace⟩ := h.queue lane run hmem
    obtain rfl := Option.some.inj (hv.symm.trans hv')
    exact hplace
  · rintro ⟨hqueued, hlane⟩
    obtain ⟨lane', hlane', hmem⟩ := h.queued run v hv hqueued
    obtain rfl := Option.some.inj (hlane'.symm.trans hlane)
    exact hmem

/-- The running run of a lane is the one that was taken there and has not left. -/
lemma Laid.running_iff (h : s.Laid) (hv : s.runs run = some v) (lane : ℕ) :
    (s.laneAt lane).running = some run ↔
      (v.position = .taken ∧ v.release ≠ .left) ∧ s.lanes v.sessionKey = some lane := by
  constructor
  · intro hrunning
    obtain ⟨v', hv', htaken, hleft, hlane⟩ := h.running lane run hrunning
    obtain rfl := Option.some.inj (hv.symm.trans hv')
    exact ⟨⟨htaken, hleft⟩, hlane⟩
  · rintro ⟨⟨htaken, hleft⟩, hlane⟩
    obtain ⟨lane', hlane', hrunning⟩ := h.taken run v hv htaken hleft
    obtain rfl := Option.some.inj (hlane'.symm.trans hlane)
    exact hrunning

/-- A step that changes one run and its place only. -/
structure Moves (s s' : LaneRuntime κ) (run : ℕ) : Prop where
  runs : ∀ other ≠ run, s'.runs other = s.runs other
  lanes : ∀ other ≠ run, ∀ w, s.runs other = some w →
    w.position = .queued ∨ w.position = .taken ∧ w.release ≠ .left →
      s'.lanes w.sessionKey = s.lanes w.sessionKey
  queue : ∀ other ≠ run, ∀ lane, other ∈ (s'.laneAt lane).queue ↔ other ∈ (s.laneAt lane).queue
  running : ∀ other ≠ run, ∀ lane,
    (s'.laneAt lane).running = some other ↔ (s.laneAt lane).running = some other
  lane_lt : ∀ key lane, s'.lanes key = some lane → lane < s'.created
  lane_inj : ∀ key key' lane, s'.lanes key = some lane → s'.lanes key' = some lane → key = key'
  sorted : ∀ lane, (s'.laneAt lane).queue.Pairwise (· < ·)

/-- The other runs stay where they are, and the changed run is where it says. -/
lemma Laid.moves {s' : LaneRuntime κ} (h : s.Laid) (hmoves : s.Moves s' run)
    (hv' : s'.runs run = some v') (hsound : v'.Sound)
    (hqueue : ∀ lane, run ∈ (s'.laneAt lane).queue ↔
      v'.position = .queued ∧ s'.lanes v'.sessionKey = some lane)
    (hrunning : ∀ lane, (s'.laneAt lane).running = some run ↔
      (v'.position = .taken ∧ v'.release ≠ .left) ∧ s'.lanes v'.sessionKey = some lane)
    (hqueued : v'.position = .queued → ∃ lane, s'.lanes v'.sessionKey = some lane)
    (htaken : v'.position = .taken → v'.release ≠ .left →
      ∃ lane, s'.lanes v'.sessionKey = some lane)
    (hfound : v'.position = .queued → ∀ lane, v'.cancelling = .found lane →
      s'.lanes v'.sessionKey = lane) : s'.Laid := by
  have hself : ∀ w, s'.runs run = some w → w = v' := fun w hw => Option.some.inj (hw.symm.trans hv')
  constructor
  · intro other w hw
    by_cases hother : other = run
    · subst hother
      rw [hself w hw]
      exact hsound
    · exact h.sound other w ((hmoves.runs other hother).symm.trans hw)
  · exact hmoves.lane_lt
  · exact hmoves.lane_inj
  · intro lane other hmem
    by_cases hother : other = run
    · subst hother
      exact ⟨v', hv', (hqueue lane).mp hmem⟩
    · obtain ⟨w, hw, hposition, hlane⟩ := h.queue lane other ((hmoves.queue other hother lane).mp hmem)
      exact ⟨w, (hmoves.runs other hother).trans hw, hposition,
        (hmoves.lanes other hother w hw (Or.inl hposition)).trans hlane⟩
  · exact hmoves.sorted
  · intro lane other hlast
    by_cases hother : other = run
    · subst hother
      obtain ⟨⟨hposition, hleft⟩, hlane⟩ := (hrunning lane).mp hlast
      exact ⟨v', hv', hposition, hleft, hlane⟩
    · obtain ⟨w, hw, hposition, hleft, hlane⟩ :=
        h.running lane other ((hmoves.running other hother lane).mp hlast)
      exact ⟨w, (hmoves.runs other hother).trans hw, hposition, hleft,
        (hmoves.lanes other hother w hw (Or.inr ⟨hposition, hleft⟩)).trans hlane⟩
  · intro other w hw hposition
    by_cases hother : other = run
    · subst hother
      obtain rfl := hself w hw
      obtain ⟨lane, hlane⟩ := hqueued hposition
      exact ⟨lane, hlane, (hqueue lane).mpr ⟨hposition, hlane⟩⟩
    · have hold := (hmoves.runs other hother).symm.trans hw
      obtain ⟨lane, hlane, hmem⟩ := h.queued other w hold hposition
      exact ⟨lane, (hmoves.lanes other hother w hold (Or.inl hposition)).trans hlane,
        (hmoves.queue other hother lane).mpr hmem⟩
  · intro other w hw hposition hleft
    by_cases hother : other = run
    · subst hother
      obtain rfl := hself w hw
      obtain ⟨lane, hlane⟩ := htaken hposition hleft
      exact ⟨lane, hlane, (hrunning lane).mpr ⟨⟨hposition, hleft⟩, hlane⟩⟩
    · have hold := (hmoves.runs other hother).symm.trans hw
      obtain ⟨lane, hlane, hlast⟩ := h.taken other w hold hposition hleft
      exact ⟨lane, (hmoves.lanes other hother w hold (Or.inr ⟨hposition, hleft⟩)).trans hlane,
        (hmoves.running other hother lane).mpr hlast⟩
  · intro other w lane hw hcancelling hposition
    by_cases hother : other = run
    · subst hother
      obtain rfl := hself w hw
      exact hfound hposition lane hcancelling
    · have hold := (hmoves.runs other hother).symm.trans hw
      exact (hmoves.lanes other hother w hold (Or.inl hposition)).trans
        (h.found other w lane hold hcancelling hposition)

lemma Laid.moves_of_lanes {s' : LaneRuntime κ} (h : s.Laid)
    (hruns : ∀ other ≠ run, s'.runs other = s.runs other)
    (hqueue : ∀ other ≠ run, ∀ lane,
      other ∈ (s'.laneAt lane).queue ↔ other ∈ (s.laneAt lane).queue)
    (hrunning : ∀ other ≠ run, ∀ lane,
      (s'.laneAt lane).running = some other ↔ (s.laneAt lane).running = some other)
    (hlanes : s'.lanes = s.lanes) (hcreated : s'.created = s.created)
    (hsorted : ∀ lane, (s'.laneAt lane).queue.Pairwise (· < ·)) : s.Moves s' run where
  runs := hruns
  lanes _ _ _ _ _ := by rw [hlanes]
  queue := hqueue
  running := hrunning
  lane_lt := by
    rw [hlanes, hcreated]
    exact h.lane_lt
  lane_inj := by
    rw [hlanes]
    exact h.lane_inj
  sorted := hsorted

/-- A change of a run that leaves its place. -/
structure Quiet (s : LaneRuntime κ) (v v' : TurnRun κ) : Prop where
  sessionKey : v'.sessionKey = v.sessionKey
  inputBytes : v'.inputBytes = v.inputBytes
  position : v'.position = v.position
  left : v'.release = .left ↔ v.release = .left
  sound : v'.Sound
  found : ∀ lane, v'.cancelling = .found lane → v'.position = .queued →
    s.lanes v'.sessionKey = lane

lemma Laid.setRun (h : s.Laid) (hv : s.runs run = some v) (hquiet : s.Quiet v v') :
    (s.setRun run v').Laid := by
  have hlanes : s.lanes v'.sessionKey = s.lanes v.sessionKey := by rw [hquiet.sessionKey]
  have hleft : v'.release ≠ .left ↔ v.release ≠ .left := not_congr hquiet.left
  refine h.moves (h.moves_of_lanes ?_ (fun _ _ _ => Iff.rfl) (fun _ _ _ => Iff.rfl) rfl rfl h.sorted)
    ((runs_setRun s run run v').trans (if_pos rfl)) hquiet.sound ?_ ?_ ?_ ?_ ?_
  · intro other hother
    rw [runs_setRun, if_neg hother]
  · intro lane
    refine (h.mem_queue_iff hv lane).trans ?_
    rw [← hquiet.position, ← hlanes]
    rfl
  · intro lane
    refine (h.running_iff hv lane).trans ?_
    rw [← hquiet.position, ← hleft, ← hlanes]
    rfl
  · intro hqueued
    obtain ⟨lane, hlane, -⟩ := h.queued run v hv (hquiet.position ▸ hqueued)
    exact ⟨lane, hlanes.trans hlane⟩
  · intro htaken hstays
    obtain ⟨lane, hlane, -⟩ := h.taken run v hv (hquiet.position ▸ htaken) (hleft.mp hstays)
    exact ⟨lane, hlanes.trans hlane⟩
  · exact fun hqueued lane hfound => hquiet.found lane hfound hqueued

lemma Placed.setRun (h : s.Placed) (hv : s.runs run = some v) (hquiet : s.Quiet v v') :
    (s.setRun run v').Placed where
  numbered other := by
    rw [runs_setRun]
    split_ifs with hsame
    · subst hsame
      exact iff_of_true ⟨v', rfl⟩ ((h.numbered other).mp ⟨v, hv⟩)
    · exact h.numbered other
  laid := h.laid.setRun hv hquiet
  used key lane hlane := by
    obtain ⟨other, w, hw, hkey, hleft⟩ := h.used key lane hlane
    by_cases hsame : other = run
    · subst hsame
      obtain rfl := Option.some.inj (hv.symm.trans hw)
      exact ⟨other, v', by simp, hquiet.sessionKey.trans hkey, hleft ∘ hquiet.left.mp⟩
    · exact ⟨other, w, by simp [hsame, hw], hkey, hleft⟩

/-! ## Taking and withdrawing a run -/

/-- A run that leaves the queue of its lane, and what the lane runs then. -/
structure Unqueues (s : LaneRuntime κ) (lane run : ℕ) (v v' : TurnRun κ) (running : Option ℕ) :
    Prop where
  runs_eq : s.runs run = some v
  queued : v.position = .queued
  lanes_eq : s.lanes v.sessionKey = some lane
  sessionKey : v'.sessionKey = v.sessionKey
  inputBytes : v'.inputBytes = v.inputBytes
  position : v'.position ≠ .queued
  sound : v'.Sound
  release : v'.release = v.release
  fromNow : ∀ other, running = some other → other = run ∧ v'.position = .taken ∨
    other ≠ run ∧ (s.laneAt lane).running = some other
  kept : ∀ other, (s.laneAt lane).running = some other → running = some other
  taken : v'.position = .taken → running = some run

/-- The state after a run has left its queue. -/
def unqueue (s : LaneRuntime κ) (lane run : ℕ) (v' : TurnRun κ) (running : Option ℕ) :
    LaneRuntime κ :=
  (s.setLane lane ⟨(s.laneAt lane).queue.erase run, running⟩).setRun run v'

@[simp] lemma runs_unqueue (s : LaneRuntime κ) (lane run other : ℕ) (v' : TurnRun κ)
    (running : Option ℕ) : (s.unqueue lane run v' running).runs other =
      if other = run then some v' else s.runs other :=
  runs_setRun _ _ _ _

@[simp] lemma laneAt_unqueue (s : LaneRuntime κ) (lane run other : ℕ) (v' : TurnRun κ)
    (running : Option ℕ) : (s.unqueue lane run v' running).laneAt other =
      if other = lane then ⟨(s.laneAt lane).queue.erase run, running⟩ else s.laneAt other :=
  laneAt_setLane _ _ _ _

lemma Unqueues.release_ne {running : Option ℕ} (h : s.Laid)
    (hout : s.Unqueues lane run v v' running) : v'.release ≠ .left := by
  rw [hout.release, (h.not_finished hout.runs_eq hout.queued).2]
  decide

lemma Laid.unqueue {running : Option ℕ} (h : s.Laid) (hout : s.Unqueues lane run v v' running) :
    (s.unqueue lane run v' running).Laid := by
  have hv := hout.runs_eq
  have hlanes : s.lanes v'.sessionKey = some lane := hout.sessionKey ▸ hout.lanes_eq
  have hnodup : (s.laneAt lane).queue.Nodup := (h.sorted lane).imp fun hlt => Nat.ne_of_lt hlt
  have hnot : ∀ lane, (s.laneAt lane).running ≠ some run := by
    intro lane hrunning
    have htaken := ((h.running_iff hv lane).mp hrunning).1.1
    rw [hout.queued] at htaken
    cases htaken
  refine h.moves (h.moves_of_lanes ?_ ?_ ?_ rfl rfl ?_)
    ((runs_unqueue s lane run run v' running).trans (if_pos rfl)) hout.sound ?_ ?_
    (fun hqueued => absurd hqueued hout.position) (fun _ _ => ⟨lane, hlanes⟩)
    (fun hqueued => absurd hqueued hout.position)
  · intro other hother
    rw [runs_unqueue, if_neg hother]
  · intro other hother lane'
    rw [laneAt_unqueue]
    split_ifs with hsame
    · rw [hsame]
      exact List.mem_erase_of_ne hother
    · rfl
  · intro other hother lane'
    rw [laneAt_unqueue]
    split_ifs with hsame
    · rw [hsame]
      exact ⟨fun hnow => ((hout.fromNow other hnow).resolve_left fun hrun => hother hrun.1).2,
        hout.kept other⟩
    · rfl
  · intro lane'
    rw [laneAt_unqueue]
    split_ifs
    · exact (h.sorted lane).sublist List.erase_sublist
    · exact h.sorted lane'
  · intro lane'
    refine iff_of_false (fun hmem => ?_) fun hqueued => hout.position hqueued.1
    rw [laneAt_unqueue] at hmem
    split_ifs at hmem with hsame
    · exact ((hnodup.mem_erase_iff).mp hmem).1 rfl
    · have hplace := ((h.mem_queue_iff hv lane').mp hmem).2
      exact hsame (Option.some.inj (hplace.symm.trans hout.lanes_eq))
  · intro lane'
    rw [laneAt_unqueue]
    split_ifs with hsame
    · refine ⟨fun hnow => ?_, fun htaken => hout.taken htaken.1.1⟩
      rcases hout.fromNow run hnow with ⟨-, htaken⟩ | ⟨hne, -⟩
      · exact ⟨⟨htaken, hout.release_ne h⟩, hsame ▸ hlanes⟩
      · exact absurd rfl hne
    · refine iff_of_false (hnot lane') fun htaken => hsame ?_
      exact Option.some.inj (htaken.2.symm.trans hlanes)

lemma Placed.unqueue {running : Option ℕ} (h : s.Placed)
    (hout : s.Unqueues lane run v v' running) : (s.unqueue lane run v' running).Placed where
  numbered other := by
    rw [runs_unqueue]
    split_ifs with hsame
    · subst hsame
      exact iff_of_true ⟨v', rfl⟩ ((h.numbered other).mp ⟨v, hout.runs_eq⟩)
    · exact h.numbered other
  laid := h.laid.unqueue hout
  used key lane hlane := by
    obtain ⟨other, w, hw, hkey, hleft⟩ := h.used key lane hlane
    by_cases hsame : other = run
    · subst hsame
      obtain rfl := Option.some.inj (hout.runs_eq.symm.trans hw)
      exact ⟨other, v', by simp, hout.sessionKey.trans hkey, hout.release_ne h.laid⟩
    · exact ⟨other, w, by simp [hsame, hw], hkey, hleft⟩

/-! ## Leaving the lane -/

/-- What the lane runs when a run has left it. -/
def runningAfter (s : LaneRuntime κ) (lane run : ℕ) : Option ℕ :=
  if (s.laneAt lane).running = some run then none else (s.laneAt lane).running

lemma runningAfter_eq_some {other : ℕ} :
    s.runningAfter lane run = some other ↔ other ≠ run ∧ (s.laneAt lane).running = some other := by
  unfold runningAfter
  split_ifs with h
  · simp only [false_iff, not_and]
    intro hne hother
    exact hne (Option.some.inj (hother.symm.trans h))
  · constructor
    · intro hother
      refine ⟨?_, hother⟩
      rintro rfl
      exact h hother
    · exact fun hother => hother.2

/-- The lane of a run that leaves holds no other run. -/
def Emptied (s : LaneRuntime κ) (lane run : ℕ) : Prop :=
  s.runningAfter lane run = none ∧ (s.laneAt lane).queue = []

instance : Decidable (s.Emptied lane run) := inferInstanceAs (Decidable (_ ∧ _))

section Lanes

variable [DecidableEq κ]

lemma leave_of_none (hlane : s.lanes key = none) : s.leave key run = s := by
  rw [LaneRuntime.leave, hlane]

lemma lanes_leave (hlane : s.lanes key = some lane) (hmem : run ∉ (s.laneAt lane).queue)
    (other : κ) : (s.leave key run).lanes other =
      if s.Emptied lane run ∧ other = key then none else s.lanes other := by
  rw [LaneRuntime.leave, hlane]
  simp only [List.erase_of_not_mem hmem]
  change (if s.Emptied lane run then Function.update s.lanes key none else s.lanes) other = _
  by_cases hempty : s.Emptied lane run
  · simp only [hempty, if_true, true_and]
    exact Function.update_apply ..
  · simp [hempty]

lemma laneAt_leave (hlane : s.lanes key = some lane) (hmem : run ∉ (s.laneAt lane).queue)
    (other : ℕ) : (s.leave key run).laneAt other =
      if other = lane then ⟨(s.laneAt lane).queue, s.runningAfter lane run⟩
      else s.laneAt other := by
  rw [LaneRuntime.leave, hlane]
  simp only [List.erase_of_not_mem hmem]
  exact laneAt_setLane ..

@[simp] lemma runs_leave : (s.leave key run).runs = s.runs := by
  unfold LaneRuntime.leave
  split <;> rfl

@[simp] lemma created_leave : (s.leave key run).created = s.created := by
  unfold LaneRuntime.leave
  split <;> rfl

/-- A run that is leaving, with what it becomes. -/
structure Leaves (s : LaneRuntime κ) (run : ℕ) (v v' : TurnRun κ) : Prop where
  runs_eq : s.runs run = some v
  placed : v.position ≠ .queued
  sessionKey : v'.sessionKey = v.sessionKey
  position : v'.position = v.position
  release : v'.release = .left
  sound : v'.Sound

lemma Laid.leave (h : s.Laid) (hout : s.Leaves run v v') :
    ((s.setRun run v').leave v.sessionKey run).Laid := by
  have hv := hout.runs_eq
  have hmem := h.not_mem_queue hv hout.placed
  have hplaced : v'.position ≠ .queued := hout.position ▸ hout.placed
  have hruns : ∀ other ≠ run, ((s.setRun run v').leave v.sessionKey run).runs other =
      s.runs other := by
    intro other hother
    rw [runs_leave, runs_setRun, if_neg hother]
  -- the run is in no queue and is no running one afterwards
  have hgone {t : LaneRuntime κ} (hmoves : s.Moves t run) (hv' : t.runs run = some v')
      (hqueue : ∀ lane, run ∉ (t.laneAt lane).queue)
      (hrunning : ∀ lane, (t.laneAt lane).running ≠ some run) : t.Laid :=
    h.moves hmoves hv' hout.sound
      (fun lane => iff_of_false (hqueue lane) fun hqueued => hplaced hqueued.1)
      (fun lane => iff_of_false (hrunning lane) fun htaken => htaken.1.2 hout.release)
      (fun hqueued => absurd hqueued hplaced) (fun _ hleft => absurd hout.release hleft)
      fun hqueued => absurd hqueued hplaced
  cases hlane : s.lanes v.sessionKey with
  | none =>
    -- Without a lane the run is not a taken one, and there is nothing to leave.
    have hleave : (s.setRun run v').leave v.sessionKey run = s.setRun run v' := leave_of_none hlane
    rw [hleave] at hruns ⊢
    refine hgone (h.moves_of_lanes hruns (fun _ _ _ => Iff.rfl) (fun _ _ _ => Iff.rfl) rfl rfl
      h.sorted) (by simp) hmem fun lane hrunning => ?_
    have hwlane := ((h.running_iff hv lane).mp hrunning).2
    rw [hlane] at hwlane
    cases hwlane
  | some lane =>
    have hlane' : (s.setRun run v').lanes v.sessionKey = some lane := hlane
    have hlanes := lanes_leave hlane' (hmem lane)
    have hlaneAt := laneAt_leave hlane' (hmem lane)
    have hsub : ∀ key other, ((s.setRun run v').leave v.sessionKey run).lanes key = some other →
        s.lanes key = some other := by
      intro key other hother
      rw [hlanes] at hother
      split_ifs at hother
      exact hother
    refine hgone ⟨hruns, ?_, ?_, ?_, ?_, ?_, ?_⟩ (by simp) ?_ ?_
    · -- A lane that still has a run stays in the map.
      intro other hother w hw hplace
      rw [hlanes, if_neg]
      · rfl
      · rintro ⟨hempty, hkey⟩
        rw [← hkey] at hlane
        rcases hplace with hqueued | htaken
        · have hwaits := (h.mem_queue_iff hw lane).mpr ⟨hqueued, hlane⟩
          rw [show (s.laneAt lane).queue = [] from hempty.2] at hwaits
          cases hwaits
        · have hruns := (h.running_iff hw lane).mpr ⟨htaken, hlane⟩
          have hafter := runningAfter_eq_some.mpr ⟨hother, hruns⟩
          rw [show s.runningAfter lane run = none from hempty.1] at hafter
          cases hafter
    · intro other _ lane'
      rw [hlaneAt]
      split_ifs with hsame
      · rw [hsame]
        rfl
      · rfl
    · intro other hother lane'
      rw [hlaneAt]
      split_ifs with hsame
      · rw [hsame]
        exact runningAfter_eq_some.trans (and_iff_right hother)
      · rfl
    · intro key other hother
      rw [created_leave]
      exact h.lane_lt key other (hsub key other hother)
    · intro key key' other hother hother'
      exact h.lane_inj key key' other (hsub key other hother) (hsub key' other hother')
    · intro lane'
      rw [hlaneAt]
      split_ifs
      · exact h.sorted lane
      · exact h.sorted lane'
    · intro lane' hqueue
      rw [hlaneAt] at hqueue
      split_ifs at hqueue
      · exact hmem lane hqueue
      · exact hmem lane' hqueue
    · intro lane' hrunning
      rw [hlaneAt] at hrunning
      split_ifs at hrunning with hsame
      · exact (runningAfter_eq_some.mp hrunning).1 rfl
      · have hwlane := ((h.running_iff hv lane').mp hrunning).2
        exact hsame (Option.some.inj (hwlane.symm.trans hlane))

lemma Laid.used_leave (h : s.Laid) (hout : s.Leaves run v v')
    (hused : ∀ key ≠ v.sessionKey, s.Used key) (key : κ) :
    ((s.setRun run v').leave v.sessionKey run).Used key := by
  have hlaid := h.leave hout
  have hmem := h.not_mem_queue hout.runs_eq hout.placed
  intro lane hlane
  by_cases hkey : key = v.sessionKey
  · -- The lane has stayed, so it has a run, and this run has not left.
    subst hkey
    have hold : s.lanes v.sessionKey = some lane := by
      cases hsome : s.lanes v.sessionKey with
      | none =>
        rw [leave_of_none (show (s.setRun run v').lanes v.sessionKey = none from hsome)] at hlane
        exact hsome ▸ hlane
      | some lane₀ =>
        rw [lanes_leave (show (s.setRun run v').lanes v.sessionKey = some lane₀ from hsome)
          (hmem lane₀)] at hlane
        split_ifs at hlane
        exact hsome ▸ hlane
    have hlane' : (s.setRun run v').lanes v.sessionKey = some lane := hold
    have hnot : ¬ (s.setRun run v').Emptied lane run := by
      intro hempty
      rw [lanes_leave hlane' (hmem lane), if_pos ⟨hempty, rfl⟩] at hlane
      cases hlane
    have hlaneAt := laneAt_leave hlane' (hmem lane) lane
    rw [if_pos rfl] at hlaneAt
    have hwitness : ∃ other w, ((s.setRun run v').leave v.sessionKey run).runs other = some w ∧
        w.release ≠ .left ∧
        ((s.setRun run v').leave v.sessionKey run).lanes w.sessionKey = some lane := by
      cases hrunning : (s.setRun run v').runningAfter lane run with
      | some other =>
        obtain ⟨w, hw, -, hleft, hwlane⟩ := hlaid.running lane other (by rw [hlaneAt, hrunning])
        exact ⟨other, w, hw, hleft, hwlane⟩
      | none =>
        obtain ⟨other, hother⟩ :=
          List.exists_mem_of_ne_nil _ fun hnil => hnot ⟨hrunning, hnil⟩
        obtain ⟨w, hw, hposition, hwlane⟩ := hlaid.queue lane other (by rw [hlaneAt]; exact hother)
        refine ⟨other, w, hw, ?_, hwlane⟩
        rw [(hlaid.not_finished hw hposition).2]
        decide
    obtain ⟨other, w, hw, hleft, hwlane⟩ := hwitness
    exact ⟨other, w, hw, hlaid.lane_inj _ _ lane hwlane hlane, hleft⟩
  · have hold : s.lanes key = some lane := by
      cases hsome : s.lanes v.sessionKey with
      | none =>
        rw [leave_of_none (show (s.setRun run v').lanes v.sessionKey = none from hsome)] at hlane
        exact hlane
      | some lane₀ =>
        rw [lanes_leave (show (s.setRun run v').lanes v.sessionKey = some lane₀ from hsome)
          (hmem lane₀), if_neg fun hboth => hkey hboth.2] at hlane
        exact hlane
    obtain ⟨other, w, hw, hwkey, hleft⟩ := hused key hkey lane hold
    refine ⟨other, w, ?_, hwkey, hleft⟩
    have hne : other ≠ run := by
      rintro rfl
      obtain rfl := Option.some.inj (hout.runs_eq.symm.trans hw)
      exact hkey hwkey.symm
    rw [runs_leave, runs_setRun, if_neg hne, hw]

/-! ## Admission -/

lemma Laid.computeIfAbsent (h : s.Laid) (key : κ) :
    (s.computeIfAbsent key).2.Laid ∧
      (s.computeIfAbsent key).2.lanes key = some (s.computeIfAbsent key).1 ∧
      ∀ other ≠ key, (s.computeIfAbsent key).2.lanes other = s.lanes other := by
  unfold LaneRuntime.computeIfAbsent
  cases hlane : s.lanes key with
  | some lane => exact ⟨h, hlane, fun _ _ => rfl⟩
  | none =>
    have hlanes : ∀ other, Function.update s.lanes key (some s.created) other =
        if other = key then some s.created else s.lanes other :=
      fun other => Function.update_apply ..
    have hkept : ∀ other lane, s.lanes other = some lane →
        Function.update s.lanes key (some s.created) other = some lane := by
      intro other lane hother
      rw [hlanes, if_neg]
      · exact hother
      · rintro rfl
        rw [hlane] at hother
        cases hother
    refine ⟨?_, by simp, fun other hother => by simp [hother]⟩
    constructor
    · exact h.sound
    · intro other lane hother
      change Function.update s.lanes key (some s.created) other = some lane at hother
      rw [hlanes] at hother
      split_ifs at hother
      · obtain rfl := Option.some.inj hother
        exact Nat.lt_succ_self _
      · exact Nat.lt_succ_of_lt (h.lane_lt other lane hother)
    · intro other other' lane hother hother'
      change Function.update s.lanes key (some s.created) other = some lane at hother
      change Function.update s.lanes key (some s.created) other' = some lane at hother'
      rw [hlanes] at hother hother'
      split_ifs at hother hother' with hsame hsame' hsame'
      · rw [hsame, hsame']
      · obtain rfl := Option.some.inj hother
        exact absurd (h.lane_lt other' _ hother') (Nat.lt_irrefl _)
      · obtain rfl := Option.some.inj hother'
        exact absurd (h.lane_lt other _ hother) (Nat.lt_irrefl _)
      · exact h.lane_inj other other' lane hother hother'
    · intro lane run hmem
      obtain ⟨v, hv, hposition, hvlane⟩ := h.queue lane run hmem
      exact ⟨v, hv, hposition, hkept _ _ hvlane⟩
    · exact h.sorted
    · intro lane run hrunning
      obtain ⟨v, hv, hposition, hleft, hvlane⟩ := h.running lane run hrunning
      exact ⟨v, hv, hposition, hleft, hkept _ _ hvlane⟩
    · intro run v hv hposition
      obtain ⟨lane, hvlane, hmem⟩ := h.queued run v hv hposition
      exact ⟨lane, hkept _ _ hvlane, hmem⟩
    · intro run v hv hposition hleft
      obtain ⟨lane, hvlane, hrunning⟩ := h.taken run v hv hposition hleft
      exact ⟨lane, hkept _ _ hvlane, hrunning⟩
    · intro run v lane hv hfound hposition
      obtain ⟨lane', hvlane, -⟩ := h.queued run v hv hposition
      rw [← h.found run v lane hv hfound hposition, hvlane]
      exact hkept _ _ hvlane

end Lanes

lemma Laid.nowhere (h : s.Laid) (hnone : s.runs run = none) (lane : ℕ) :
    run ∉ (s.laneAt lane).queue ∧ (s.laneAt lane).running ≠ some run := by
  constructor
  · intro hmem
    obtain ⟨w, hw, -⟩ := h.queue lane run hmem
    rw [hnone] at hw
    cases hw
  · intro hrunning
    obtain ⟨w, hw, -⟩ := h.running lane run hrunning
    rw [hnone] at hw
    cases hw

lemma Laid.addRun (h : s.Laid) (hnone : s.runs run = none) (hposition : v.position = .withdrawn)
    (hsound : v.Sound) : (s.setRun run v).Laid := by
  refine h.moves (h.moves_of_lanes ?_ (fun _ _ _ => Iff.rfl) (fun _ _ _ => Iff.rfl) rfl rfl h.sorted)
    ((runs_setRun s run run v).trans (if_pos rfl)) hsound (fun lane => ?_) (fun lane => ?_)
    (by simp [hposition]) (by simp [hposition]) (by simp [hposition])
  · intro other hother
    rw [runs_setRun, if_neg hother]
  · exact iff_of_false (h.nowhere hnone lane).1 (by simp [hposition])
  · exact iff_of_false (h.nowhere hnone lane).2 (by simp [hposition])

lemma Laid.enqueue (h : s.Laid) (inputBytes : ℕ) (hlane : s.lanes key = some lane)
    (hnew : ∀ other w, s.runs other = some w → other < run) :
    ((s.setRun run { sessionKey := key, inputBytes := inputBytes }).setLane lane
      { s.laneAt lane with queue := (s.laneAt lane).queue ++ [run] }).Laid := by
  set t := (s.setRun run { sessionKey := key, inputBytes := inputBytes }).setLane lane
    { s.laneAt lane with queue := (s.laneAt lane).queue ++ [run] } with ht
  have hruns : ∀ other, t.runs other =
      if other = run then some { sessionKey := key, inputBytes := inputBytes }
      else s.runs other := fun other => runs_setRun s run other _
  have hlaneAt : ∀ other, t.laneAt other = if other = lane then
      { s.laneAt lane with queue := (s.laneAt lane).queue ++ [run] } else s.laneAt other :=
    fun other => laneAt_setLane _ _ _ _
  have hrunning : ∀ other, (t.laneAt other).running = (s.laneAt other).running := by
    intro other
    rw [hlaneAt]
    split_ifs with hsame
    · rw [hsame]
    · rfl
  have hnone : s.runs run = none := by
    by_contra hsome
    obtain ⟨w, hw⟩ := Option.ne_none_iff_exists'.mp hsome
    exact Nat.lt_irrefl _ (hnew run w hw)
  refine h.moves (h.moves_of_lanes ?_ ?_ ?_ rfl rfl ?_) ((hruns run).trans (if_pos rfl))
    (by constructor <;> simp) ?_ ?_ (fun _ => ⟨lane, hlane⟩) (by simp) (by simp)
  · intro other hother
    rw [hruns, if_neg hother]
  · intro other hother lane'
    rw [hlaneAt]
    split_ifs with hsame
    · simp [hsame, hother]
    · rfl
  · intro other _ lane'
    rw [hrunning]
  · intro lane'
    rw [hlaneAt]
    split_ifs
    · refine List.pairwise_append.mpr ⟨h.sorted lane, List.pairwise_singleton _ _, ?_⟩
      intro other hmem _ hlast
      obtain rfl := List.mem_singleton.mp hlast
      obtain ⟨w, hw, -⟩ := h.queue lane other hmem
      exact hnew other w hw
    · exact h.sorted lane'
  · intro lane'
    rw [hlaneAt]
    split_ifs with hsame
    · exact iff_of_true (by simp) ⟨rfl, hsame ▸ hlane⟩
    · refine iff_of_false (h.nowhere hnone lane').1 fun hplace => hsame ?_
      exact Option.some.inj (hplace.2.symm.trans hlane)
  · intro lane'
    rw [hrunning]
    exact iff_of_false (h.nowhere hnone lane').2 (by simp)

end LaneRuntime

end JaDesktop.Sidecar
