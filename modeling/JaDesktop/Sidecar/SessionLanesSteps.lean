import JaDesktop.Sidecar.SessionLanesPlaced

/-!
# The steps of the lanes

What a step of any thread can do, said once: it admits or refuses a run, takes it, withdraws it or
lets it leave, or it changes a run where it stands.
-/

namespace JaDesktop.Sidecar.LaneRuntime

variable {κ : Type} {config : LaneConfig} {s : LaneRuntime κ}

variable {run : ℕ} {v : TurnRun κ} {t : LaneRuntime κ}

lemma Laid.quiet_release (h : s.Laid) (hv : s.runs run = some v) {release : Release}
    (hold : v.release ≠ .idle ∧ v.release ≠ .left) (hnew : release ≠ .idle ∧ release ≠ .left) :
    s.Quiet v { v with release := release } where
  sessionKey := rfl
  inputBytes := rfl
  position := rfl
  left := iff_of_false hnew.2 hold.2
  sound := by
    have hsound := h.sound run v hv
    exact ⟨iff_of_true (hsound.finished_iff.mpr hold.1) hnew.1, hsound.finished_placed,
      hsound.done_placed, hsound.started_taken, hsound.marked_cancelled,
      hsound.withdrawn_cancelled⟩
  found lane hfound hqueued := h.found run v lane hv hfound hqueued

lemma Numbered.new (h : s.Numbered) : s.runs s.admitted = none := by
  by_contra hsome
  exact Nat.lt_irrefl _ ((h s.admitted).mp (Option.ne_none_iff_exists'.mp hsome))

lemma Numbered.add (h : s.Numbered) (hadmitted : t.admitted = s.admitted + 1)
    (hruns : ∀ other, t.runs other = if other = s.admitted then some v else s.runs other) :
    t.Numbered := by
  intro other
  rw [hruns, hadmitted, Nat.lt_succ_iff_lt_or_eq]
  split_ifs with hsame
  · exact iff_of_true ⟨v, rfl⟩ (Or.inr hsame)
  · rw [h other]
    exact (or_iff_left hsame).symm

lemma Placed.congr (h : s.Placed) (hadmitted : t.admitted = s.admitted) (hruns : t.runs = s.runs)
    (hcreated : t.created = s.created) (hlaneAt : t.laneAt = s.laneAt) (hlanes : t.lanes = s.lanes)
    : t.Placed := by
  obtain ⟨accepting, admitted, runs, created, laneAt, lanes, count, bytes, history⟩ := t
  dsimp only at hadmitted hruns hcreated hlaneAt hlanes
  subst hadmitted hruns hcreated hlaneAt hlanes
  exact ⟨h.numbered, ⟨h.laid.sound, h.laid.lane_lt, h.laid.lane_inj, h.laid.queue, h.laid.sorted,
    h.laid.running, h.laid.queued, h.laid.taken, h.laid.found⟩, h.used⟩

lemma setRun_setRun (run : ℕ) (v v' : TurnRun κ) :
    (s.setRun run v).setRun run v' = s.setRun run v' := by
  simp [setRun]

variable [DecidableEq κ]

/-- The runtime with one more run, before the run is written. -/
def admitting (s : LaneRuntime κ) (key : κ) : LaneRuntime κ :=
  (({ s with admitted := s.admitted + 1 } : LaneRuntime κ).computeIfAbsent key).2

/-- The lane of the new run. -/
def admittingLane (s : LaneRuntime κ) (key : κ) : ℕ :=
  (({ s with admitted := s.admitted + 1 } : LaneRuntime κ).computeIfAbsent key).1

/-- What a step does. -/
inductive Stepped (config : LaneConfig) (s : LaneRuntime κ) : LaneRuntime κ → Prop
  | gate (accepting : Bool) : Stepped config s { s with accepting := accepting }
  | refuse (key : κ) (inputBytes : ℕ) :
      Stepped config s ((((s.admitting key).setRun s.admitted (.refused key inputBytes)).record
        [.admitted key s.admitted, .withdrawn s.admitted, .finished s.admitted,
          .published s.admitted]).leave key s.admitted)
  | enter (key : κ) (inputBytes : ℕ) (hroom : ¬ s.QueueFull config inputBytes) :
      Stepped config s { ((s.admitting key).setRun s.admitted
          { sessionKey := key, inputBytes := inputBytes }).setLane (s.admittingLane key)
            { s.laneAt (s.admittingLane key) with
              queue := (s.laneAt (s.admittingLane key)).queue ++ [s.admitted] } with
        acceptedCount := s.acceptedCount + 1
        acceptedInputBytes := s.acceptedInputBytes + inputBytes
        history := s.history ++ [.admitted key s.admitted] }
  | take (lane run : ℕ) (v : TurnRun κ) (queue : List ℕ)
      (hqueue : (s.laneAt lane).queue = run :: queue) (hidle : (s.laneAt lane).running = none)
      (hout : s.Unqueues lane run v { v with position := .taken } (some run)) :
      Stepped config s ((s.unqueue lane run { v with position := .taken } (some run)).record
        [.taken v.sessionKey run])
  | withdraw (lane run : ℕ) (v : TurnRun κ)
      (hout : s.Unqueues lane run v { v with cancelling := .done, position := .withdrawn }
        (s.laneAt lane).running) :
      Stepped config s ((s.unqueue lane run
        { v with cancelling := .done, position := .withdrawn } (s.laneAt lane).running).record
          [.withdrawn run])
  | change (run : ℕ) (v v' : TurnRun κ) (hv : s.runs run = some v) (hquiet : s.Quiet v v')
      (hfinished : v'.finished = v.finished) (hrelease : v'.release = v.release ∨
        v.release = .claimed ∧ v'.release = .unregistered) :
      Stepped config s (s.setRun run v')
  | publish (run : ℕ) (v : TurnRun κ) (hv : s.runs run = some v) (hplaced : v.position ≠ .queued) :
      Stepped config s (s.record [.published run])
  | finish (run : ℕ) (v : TurnRun κ) (hv : s.runs run = some v)
      (hquiet : s.Quiet v { v with finished := true, release := .claimed })
      (hrelease : v.release = .idle) :
      Stepped config s ((s.setRun run { v with finished := true, release := .claimed }).record
        [.finished run])
  | uncount (run : ℕ) (v : TurnRun κ) (hv : s.runs run = some v)
      (hquiet : s.Quiet v { v with release := .uncounted }) (hrelease : v.release = .unregistered) :
      Stepped config s { s.setRun run { v with release := .uncounted } with
        acceptedCount := s.acceptedCount - 1 }
  | unbill (run : ℕ) (v : TurnRun κ) (hv : s.runs run = some v)
      (hquiet : s.Quiet v { v with release := .unbilled }) (hrelease : v.release = .uncounted) :
      Stepped config s { s.setRun run { v with release := .unbilled } with
        acceptedInputBytes := s.acceptedInputBytes - v.inputBytes }
  | leave (run : ℕ) (v : TurnRun κ) (hout : s.Leaves run v { v with release := .left })
      (hrelease : v.release = .unbilled) :
      Stepped config s ((s.setRun run { v with release := .left }).leave v.sessionKey run)

lemma Stepped.still : Stepped config s s := .gate s.accepting

lemma stepped_start (key : κ) (inputBytes : ℕ) (refused : Bool) :
    Stepped config s (s.start config key inputBytes refused) := by
  have hlane : (s.admitting key).laneAt = s.laneAt ∧
      (s.admitting key).acceptedCount = s.acceptedCount ∧
      (s.admitting key).acceptedInputBytes = s.acceptedInputBytes ∧
      (s.admitting key).history = s.history := by
    unfold admitting LaneRuntime.computeIfAbsent
    split <;> exact ⟨rfl, rfl, rfl, rfl⟩
  unfold LaneRuntime.start
  split_ifs with hfull
  · exact .still
  · exact .refuse key inputBytes
  · push Not at hfull
    have hstep := Stepped.enter key inputBytes hfull.2
    rw [← hlane.1, ← hlane.2.1, ← hlane.2.2.1, ← hlane.2.2.2] at hstep
    exact hstep

lemma stepped_scheduleNext (h : s.Laid) (lane : ℕ) :
    Stepped config s (s.scheduleNext lane) := by
  unfold LaneRuntime.scheduleNext
  split
  · next run queue hrunning hqueue =>
    split
    · next v hv =>
      have hmem : run ∈ (s.laneAt lane).queue := by rw [hqueue]; exact List.mem_cons_self
      obtain ⟨v', hv', hposition, hlane⟩ := h.queue lane run hmem
      obtain rfl := Option.some.inj (hv.symm.trans hv')
      have hsound := h.sound run v hv
      obtain ⟨hfinished, hrelease⟩ := h.not_finished hv hposition
      have hout : s.Unqueues lane run v { v with position := .taken } (some run) := by
        refine ⟨hv, hposition, hlane, rfl, rfl, by simp, ?_, rfl, ?_, ?_, fun _ => rfl⟩
        · exact ⟨hsound.finished_iff, by simp, by simp, fun _ => rfl, hsound.marked_cancelled,
            by simp⟩
        · intro other hother
          exact Or.inl ⟨(Option.some.inj hother).symm, rfl⟩
        · intro other hother
          rw [hrunning] at hother
          cases hother
      have hstep : Stepped config s _ := .take lane run v queue hqueue hrunning hout
      rw [LaneRuntime.unqueue, hqueue, List.erase_cons_head] at hstep
      exact hstep
    · exact .still
  · exact .still

lemma stepped_dequeue (h : s.Laid) (hv : s.runs run = some v) {lane : Option ℕ}
    (hfound : v.cancelling = .found lane) :
    Stepped config s (s.dequeue run v lane) := by
  have hsound := h.sound run v hv
  have hcancelled : v.cancelled = true := hsound.marked_cancelled (by simp [hfound])
  -- The run is queued in the lane that was found, or it is not queued any more.
  have hmiss : (∀ other, lane = some other → run ∉ (s.laneAt other).queue) →
      v.position ≠ .queued := by
    intro hnot hqueued
    obtain ⟨other, hother, hmem⟩ := h.queued run v hv hqueued
    exact hnot other ((h.found run v lane hv hfound hqueued).symm.trans hother) hmem
  have hchange : v.position ≠ .queued →
      Stepped config s (s.setRun run { v with cancelling := .done }) := by
    intro hplaced
    refine .change run v _ hv ⟨rfl, rfl, rfl, Iff.rfl, ?_, ?_⟩ rfl (Or.inl rfl)
    · exact ⟨hsound.finished_iff, hsound.finished_placed, fun _ => hplaced, hsound.started_taken,
        fun _ => hcancelled, hsound.withdrawn_cancelled⟩
    · intro other hother
      cases hother
  unfold LaneRuntime.dequeue
  cases lane with
  | none => exact hchange (hmiss fun other hother => by cases hother)
  | some lane =>
    dsimp only
    split_ifs with hmem
    · obtain ⟨v', hv', hposition, hlane⟩ := h.queue lane run hmem
      obtain rfl := Option.some.inj (hv.symm.trans hv')
      obtain ⟨hfinished, hrelease⟩ := h.not_finished hv hposition
      refine .withdraw lane run v
        ⟨hv, hposition, hlane, rfl, rfl, by simp, ?_, rfl, ?_, fun _ => id, ?_⟩
      · refine ⟨hsound.finished_iff, by simp, by simp, ?_, fun _ => hcancelled,
          fun _ => Or.inl hcancelled⟩
        intro hstarted
        exact absurd (hsound.started_taken hstarted) (by simp [hposition])
      · intro other hother
        refine Or.inr ⟨?_, hother⟩
        rintro rfl
        obtain ⟨w, hw, htaken, -⟩ := h.running lane other hother
        obtain rfl := Option.some.inj (hv.symm.trans hw)
        rw [hposition] at htaken
        cases htaken
      · intro htaken
        cases htaken
    · refine hchange (hmiss ?_)
      intro other hother
      obtain rfl := Option.some.inj hother
      exact hmem

lemma stepped_runStep (h : s.Laid) (hv : s.runs run = some v) (action : LaneAction κ) :
    Stepped config s (s.runStep action run v) := by
  have hsound := h.sound run v hv
  unfold LaneRuntime.runStep
  cases action with
  | cancel _ =>
    dsimp only
    split_ifs
    · refine .change run v _ hv ⟨rfl, rfl, rfl, Iff.rfl, ?_, ?_⟩ rfl (Or.inl rfl)
      · exact ⟨hsound.finished_iff, hsound.finished_placed, by simp, hsound.started_taken,
          fun _ => rfl, fun _ => Or.inl rfl⟩
      · intro other hother
        cases hother
    · exact .still
  | findLane _ =>
    dsimp only
    split_ifs with hmarked
    · refine .change run v _ hv ⟨rfl, rfl, rfl, Iff.rfl, ?_, ?_⟩ rfl (Or.inl rfl)
      · exact ⟨hsound.finished_iff, hsound.finished_placed, by simp, hsound.started_taken,
          fun _ => hsound.marked_cancelled (by simp [hmarked]), hsound.withdrawn_cancelled⟩
      · rintro other hother -
        cases hother
        rfl
    · exact .still
  | dequeue _ =>
    dsimp only
    split
    · next lane hfound => exact stepped_dequeue h hv hfound
    · exact .still
  | execute _ =>
    dsimp only
    split_ifs with htaken
    · refine .change run v _ hv ⟨rfl, rfl, rfl, Iff.rfl, ?_, ?_⟩ rfl (Or.inl rfl)
      · exact ⟨hsound.finished_iff, hsound.finished_placed, hsound.done_placed,
          fun _ => htaken.1, hsound.marked_cancelled, hsound.withdrawn_cancelled⟩
      · exact fun lane hfound hqueued => h.found run v lane hv hfound hqueued
    · exact .still
  | publish _ =>
    dsimp only
    split_ifs with hstarted
    · refine .publish run v hv ?_
      rw [hsound.started_taken hstarted.1]
      decide
    · exact .still
  | finish _ =>
    dsimp only
    split_ifs with hfinish
    · obtain ⟨hnot, hplaced⟩ := hfinish
      have hidle : v.release = .idle := by
        by_contra hrelease
        rw [hsound.finished_iff.mpr hrelease] at hnot
        cases hnot
      have hout : v.position ≠ .queued := by
        rcases hplaced with htaken | hdone
        · rw [htaken]
          decide
        · exact hsound.done_placed hdone
      refine .finish run v hv ⟨rfl, rfl, rfl, ?_, ?_, ?_⟩ hidle
      · exact iff_of_false (by simp) (by simp [hidle])
      · exact ⟨by simp, fun _ => hout, hsound.done_placed, hsound.started_taken,
          hsound.marked_cancelled, hsound.withdrawn_cancelled⟩
      · exact fun lane hfound hqueued => h.found run v lane hv hfound hqueued
    · exact .still
  | terminal _ =>
    dsimp only
    split_ifs with hclaimed
    · refine .publish run v hv (hsound.finished_placed (hsound.finished_iff.mpr ?_))
      rw [hclaimed]
      decide
    · exact .still
  | unregister _ =>
    dsimp only
    split_ifs with hclaimed
    · have hquiet : s.Quiet v { v with release := .unregistered } :=
        h.quiet_release hv (by simp [hclaimed]) (by decide)
      exact .change run v _ hv hquiet rfl (Or.inr ⟨hclaimed, rfl⟩)
    · exact .still
  | decrementCount _ =>
    dsimp only
    split_ifs with hrelease
    · exact .uncount run v hv (h.quiet_release hv (by simp [hrelease]) (by decide)) hrelease
    · exact .still
  | decrementBytes _ =>
    dsimp only
    split_ifs with hrelease
    · exact .unbill run v hv (h.quiet_release hv (by simp [hrelease]) (by decide)) hrelease
    · exact .still
  | leaveLane _ =>
    dsimp only
    split_ifs with hrelease
    · have hfinished : v.finished = true := hsound.finished_iff.mpr (by simp [hrelease])
      refine .leave run v ⟨hv, hsound.finished_placed hfinished, rfl, rfl, rfl, ?_⟩ hrelease
      exact ⟨iff_of_true hfinished (by simp), hsound.finished_placed, hsound.done_placed,
        hsound.started_taken, hsound.marked_cancelled, hsound.withdrawn_cancelled⟩
    · exact .still
  | start _ _ _ | stopAccepting | scheduleNext _ => exact .still

/-- **What a step does**, whatever the action. -/
theorem stepped_after (h : s.Laid) (action : LaneAction κ) :
    Stepped config s (s.after config action) := by
  unfold LaneRuntime.after
  cases action with
  | start key inputBytes refused => exact stepped_start key inputBytes refused
  | stopAccepting => exact .gate false
  | scheduleNext lane => exact stepped_scheduleNext h lane
  | _ =>
    dsimp only [actor, Option.bind_some]
    split
    · next hsome =>
      obtain ⟨v, hv, heq⟩ := Option.map_eq_some_iff.mp hsome
      cases heq
      exact stepped_runStep h hv _
    · exact .still

/-! ## The places over a step -/

lemma placed_admitting (h : s.Placed) (key : κ) :
    (s.admitting key).Laid ∧
      (s.admitting key).lanes key = some (s.admittingLane key) ∧
      ∀ other ≠ key, (s.admitting key).lanes other = s.lanes other :=
  Laid.computeIfAbsent (s := { s with admitted := s.admitted + 1 })
    ⟨h.laid.sound, h.laid.lane_lt, h.laid.lane_inj, h.laid.queue, h.laid.sorted, h.laid.running,
      h.laid.queued, h.laid.taken, h.laid.found⟩ key

section

variable (key : κ)
include key

@[simp] lemma runs_admitting : (s.admitting key).runs = s.runs := by
  unfold admitting LaneRuntime.computeIfAbsent
  split <;> rfl

@[simp] lemma admitted_admitting : (s.admitting key).admitted = s.admitted + 1 := by
  unfold admitting LaneRuntime.computeIfAbsent
  split <;> rfl

@[simp] lemma laneAt_admitting : (s.admitting key).laneAt = s.laneAt := by
  unfold admitting LaneRuntime.computeIfAbsent
  split <;> rfl

@[simp] lemma history_admitting : (s.admitting key).history = s.history := by
  unfold admitting LaneRuntime.computeIfAbsent
  split <;> rfl

@[simp] lemma acceptedCount_admitting :
    (s.admitting key).acceptedCount = s.acceptedCount := by
  unfold admitting LaneRuntime.computeIfAbsent
  split <;> rfl

@[simp] lemma acceptedInputBytes_admitting :
    (s.admitting key).acceptedInputBytes = s.acceptedInputBytes := by
  unfold admitting LaneRuntime.computeIfAbsent
  split <;> rfl

@[simp] lemma admitted_leave (run : ℕ) : (s.leave key run).admitted = s.admitted := by
  unfold LaneRuntime.leave
  split <;> rfl

@[simp] lemma history_leave (run : ℕ) : (s.leave key run).history = s.history := by
  unfold LaneRuntime.leave
  split <;> rfl

@[simp] lemma acceptedCount_leave (run : ℕ) :
    (s.leave key run).acceptedCount = s.acceptedCount := by
  unfold LaneRuntime.leave
  split <;> rfl

@[simp] lemma acceptedInputBytes_leave (run : ℕ) :
    (s.leave key run).acceptedInputBytes = s.acceptedInputBytes := by
  unfold LaneRuntime.leave
  split <;> rfl

end

lemma record_leave (events : List (LaneEvent κ)) (key : κ) (run : ℕ) :
    (s.record events).leave key run = (s.leave key run).record events := by
  have hlanes : (s.record events).lanes key = s.lanes key := rfl
  unfold LaneRuntime.leave
  rw [hlanes]
  cases s.lanes key <;> rfl

/-- **The places are kept** by every step. -/
theorem Placed.step (h : s.Placed) (hstep : Stepped config s t) :
    t.Placed := by
  cases hstep with
  | gate accepting => exact h.congr rfl rfl rfl rfl rfl
  | refuse key inputBytes =>
    obtain ⟨hlaid, hlane, hothers⟩ := placed_admitting h key
    have hnone : (s.admitting key).runs s.admitted = none := by
      rw [runs_admitting]
      exact h.numbered.new
    -- The run is admitted as one that is about to leave.
    set w : TurnRun κ := { TurnRun.refused key inputBytes with release := .unbilled } with hw
    have hadded : ((s.admitting key).setRun s.admitted w).Laid := by
      refine hlaid.addRun hnone rfl ?_
      constructor <;> simp [hw, TurnRun.refused]
    have hout : ((s.admitting key).setRun s.admitted w).Leaves s.admitted w
        (.refused key inputBytes) := by
      refine ⟨by simp, by simp [hw, TurnRun.refused], rfl, rfl, rfl, ?_⟩
      constructor <;> simp [TurnRun.refused]
    have hused : ∀ other ≠ w.sessionKey, ((s.admitting key).setRun s.admitted w).Used other := by
      intro other hother lane hlane'
      have hold : s.lanes other = some lane := (hothers other hother).symm.trans hlane'
      obtain ⟨run, v, hv, hkey, hleft⟩ := h.used other lane hold
      refine ⟨run, v, ?_, hkey, hleft⟩
      rw [runs_setRun, runs_admitting, if_neg, hv]
      rintro rfl
      rw [h.numbered.new] at hv
      cases hv
    have hleave := hadded.leave hout
    have hleaveUsed := hadded.used_leave hout hused
    rw [setRun_setRun] at hleave hleaveUsed
    rw [record_leave]
    have hplaced : (((s.admitting key).setRun s.admitted (.refused key inputBytes)).leave
        w.sessionKey s.admitted).Placed := by
      refine ⟨h.numbered.add (v := .refused key inputBytes) ?_ fun other => ?_, hleave, hleaveUsed⟩
      · rw [admitted_leave]
        exact admitted_admitting key
      rw [runs_leave, runs_setRun, runs_admitting]
    exact hplaced.congr rfl rfl rfl rfl rfl
  | enter key inputBytes hroom =>
    obtain ⟨hlaid, hlane, hothers⟩ := placed_admitting h key
    have hnew : ∀ other w, (s.admitting key).runs other = some w → other < s.admitted := by
      intro other w hw
      rw [runs_admitting] at hw
      exact (h.numbered other).mp ⟨w, hw⟩
    have henqueue := hlaid.enqueue inputBytes hlane hnew
    have hplaced : (((s.admitting key).setRun s.admitted
        { sessionKey := key, inputBytes := inputBytes }).setLane (s.admittingLane key)
          { (s.admitting key).laneAt (s.admittingLane key) with
            queue := ((s.admitting key).laneAt (s.admittingLane key)).queue ++
              [s.admitted] }).Placed := by
      refine ⟨h.numbered.add (v := { sessionKey := key, inputBytes := inputBytes })
        (admitted_admitting key) fun other => ?_, henqueue, ?_⟩
      · exact (runs_setRun _ _ _ _).trans (by rw [runs_admitting])
      · intro other lane hlane'
        by_cases hsame : other = key
        · exact ⟨s.admitted, { sessionKey := key, inputBytes := inputBytes },
            (runs_setRun _ _ _ _).trans (if_pos rfl), hsame.symm, by simp⟩
        · have hold : s.lanes other = some lane := (hothers other hsame).symm.trans hlane'
          obtain ⟨run, v, hv, hkey, hleft⟩ := h.used other lane hold
          refine ⟨run, v, (runs_setRun _ _ _ _).trans ?_, hkey, hleft⟩
          rw [runs_admitting, if_neg, hv]
          rintro rfl
          rw [h.numbered.new] at hv
          cases hv
    rw [laneAt_admitting] at hplaced
    exact hplaced.congr rfl rfl rfl rfl rfl
  | take lane run v queue hqueue hidle hout => exact (h.unqueue hout).congr rfl rfl rfl rfl rfl
  | withdraw lane run v hout => exact (h.unqueue hout).congr rfl rfl rfl rfl rfl
  | change run v v' hv hquiet hfinished hrelease => exact h.setRun hv hquiet
  | publish run v hv hplaced => exact h.congr rfl rfl rfl rfl rfl
  | finish run v hv hquiet hrelease => exact (h.setRun hv hquiet).congr rfl rfl rfl rfl rfl
  | uncount run v hv hquiet hrelease => exact (h.setRun hv hquiet).congr rfl rfl rfl rfl rfl
  | unbill run v hv hquiet hrelease => exact (h.setRun hv hquiet).congr rfl rfl rfl rfl rfl
  | leave run v hout hrelease =>
    refine ⟨?_, h.laid.leave hout, h.laid.used_leave hout fun key _ => h.used key⟩
    intro other
    rw [runs_leave, admitted_leave, runs_setRun]
    split_ifs with hsame
    · subst hsame
      exact iff_of_true ⟨_, rfl⟩ ((h.numbered other).mp ⟨v, hout.runs_eq⟩)
    · exact h.numbered other

/-- The places are right after any steps. -/
theorem placed_reached (actions : List (LaneAction κ)) : (reached config actions).Placed :=
  List.foldlRecOn actions _ placed_initial fun _ h action _ => h.step (stepped_after h.laid action)

end JaDesktop.Sidecar.LaneRuntime
