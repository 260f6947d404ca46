import JaDesktop.Lib.Runs
import JaDesktop.Sidecar.SessionLanesSteps

/-!
# The order of the runs

The history of the lanes: a run is taken only when every run of its session that was taken before it
has finished, and when every run of its session that was admitted before it has been taken or
withdrawn; and a run publishes nothing before it is taken or withdrawn.
-/

namespace JaDesktop.Sidecar

variable {κ : Type}

/-- When an event may happen, after the events of the past. -/
def LaneEvent.Allowed (past : List (LaneEvent κ)) : LaneEvent κ → Prop
  | .admitted _ run => ∀ key other, .admitted key other ∈ past → other < run
  | .withdrawn run => ∀ key, .taken key run ∉ past
  | .taken key run => .admitted key run ∈ past ∧ .withdrawn run ∉ past ∧ .taken key run ∉ past ∧
      (∀ other, .taken key other ∈ past → .finished other ∈ past) ∧
      ∀ other < run, .admitted key other ∈ past → .taken key other ∈ past ∨ .withdrawn other ∈ past
  | .published run => (∃ key, .taken key run ∈ past) ∨ .withdrawn run ∈ past
  | .finished run => .finished run ∉ past

/-- What the history says of a run. -/
structure RunView (κ : Type) where
  sessionKey : κ
  position : Position
  finished : Bool

def TurnRun.view (v : TurnRun κ) : RunView κ := ⟨v.sessionKey, v.position, v.finished⟩

namespace LaneRuntime

/-- The runs as the history knows them. -/
def view (s : LaneRuntime κ) (run : ℕ) : Option (RunView κ) := (s.runs run).map TurnRun.view

/-- The runs agree with the history, and the history is in order. -/
structure Recorded (view : ℕ → Option (RunView κ)) (history : List (LaneEvent κ)) : Prop where
  admitted : ∀ key run,
    .admitted key run ∈ history ↔ ∃ v, view run = some v ∧ v.sessionKey = key
  taken : ∀ key run, .taken key run ∈ history ↔
    ∃ v, view run = some v ∧ v.sessionKey = key ∧ v.position = .taken
  withdrawn : ∀ run, .withdrawn run ∈ history ↔ ∃ v, view run = some v ∧ v.position = .withdrawn
  finished : ∀ run, .finished run ∈ history ↔ ∃ v, view run = some v ∧ v.finished = true
  justified : Justified LaneEvent.Allowed history

variable {view view' : ℕ → Option (RunView κ)} {history : List (LaneEvent κ)} {run : ℕ}
  {x y : RunView κ}

/-- A run that is changed or added. -/
structure Writes (view view' : ℕ → Option (RunView κ)) (run : ℕ) (y : RunView κ) : Prop where
  self : view' run = some y
  other : ∀ other ≠ run, view' other = view other

lemma Writes.iff_kept (h : Writes view view' run y) {p : RunView κ → Prop}
    (hp : (∃ v, view run = some v ∧ p v) ↔ p y) (other : ℕ) :
    (∃ v, view' other = some v ∧ p v) ↔ ∃ v, view other = some v ∧ p v := by
  by_cases hsame : other = run
  · subst hsame
    rw [hp, h.self]
    simp
  · rw [h.other other hsame]

lemma Writes.iff_added (h : Writes view view' run y) {p : RunView κ → Prop} (hp : p y)
    (other : ℕ) :
    (∃ v, view' other = some v ∧ p v) ↔ (∃ v, view other = some v ∧ p v) ∨ other = run := by
  by_cases hsame : other = run
  · subst hsame
    exact iff_of_true ⟨y, h.self, hp⟩ (Or.inr rfl)
  · rw [h.other other hsame]
    exact (or_iff_left hsame).symm

lemma recorded_initial : Recorded (initial κ).view (initial κ).history := by
  constructor
  · simp [initial, LaneRuntime.view]
  · simp [initial, LaneRuntime.view]
  · simp [initial, LaneRuntime.view]
  · simp [initial, LaneRuntime.view]
  · exact Justified.nil

section

variable (h : Recorded view history)
include h

lemma Recorded.published (hx : view run = some x)
    (hplaced : x.position ≠ .queued) : Recorded view (history ++ [.published run]) where
  admitted key other := by simp [h.admitted]
  taken key other := by simp [h.taken]
  withdrawn other := by simp [h.withdrawn]
  finished other := by simp [h.finished]
  justified := by
    refine h.justified.snoc ?_
    cases hposition : x.position with
    | queued => exact absurd hposition hplaced
    | withdrawn => exact Or.inr ((h.withdrawn run).mpr ⟨x, hx, hposition⟩)
    | taken => exact Or.inl ⟨x.sessionKey, (h.taken _ run).mpr ⟨x, hx, rfl, hposition⟩⟩

lemma Recorded.finish (hx : view run = some x)
    (hnot : x.finished = false) (hwrites : Writes view view' run { x with finished := true }) :
    Recorded view' (history ++ [.finished run]) where
  admitted key other := by
    rw [hwrites.iff_kept (by simp [hx])]
    simp [h.admitted]
  taken key other := by
    rw [hwrites.iff_kept (by simp [hx])]
    simp [h.taken]
  withdrawn other := by
    rw [hwrites.iff_kept (by simp [hx])]
    simp [h.withdrawn]
  finished other := by
    rw [hwrites.iff_added (p := fun v => v.finished = true) rfl]
    simp [h.finished]
  justified := by
    refine h.justified.snoc fun hmem => ?_
    obtain ⟨x', hx', hfinished⟩ := (h.finished run).mp hmem
    obtain rfl := Option.some.inj (hx.symm.trans hx')
    rw [hnot] at hfinished
    cases hfinished

lemma Recorded.withdraw (hx : view run = some x)
    (hqueued : x.position = .queued)
    (hwrites : Writes view view' run { x with position := .withdrawn }) :
    Recorded view' (history ++ [.withdrawn run]) where
  admitted key other := by
    rw [hwrites.iff_kept (by simp [hx])]
    simp [h.admitted]
  taken key other := by
    rw [hwrites.iff_kept (by simp [hx, hqueued])]
    simp [h.taken]
  withdrawn other := by
    rw [hwrites.iff_added (p := fun v => v.position = .withdrawn) rfl]
    simp [h.withdrawn]
  finished other := by
    rw [hwrites.iff_kept (by simp [hx])]
    simp [h.finished]
  justified := by
    refine h.justified.snoc fun key hmem => ?_
    obtain ⟨x', hx', -, htaken⟩ := (h.taken key run).mp hmem
    obtain rfl := Option.some.inj (hx.symm.trans hx')
    rw [hqueued] at htaken
    cases htaken

lemma Recorded.take (hx : view run = some x)
    (hqueued : x.position = .queued)
    (hwrites : Writes view view' run { x with position := .taken })
    (hearlier : ∀ other v, view other = some v → v.sessionKey = x.sessionKey →
      v.position = .taken → v.finished = true)
    (hfirst : ∀ other < run, ∀ v, view other = some v → v.sessionKey = x.sessionKey →
      v.position ≠ .queued) :
    Recorded view' (history ++ [.taken x.sessionKey run]) where
  admitted key other := by
    rw [hwrites.iff_kept (by simp [hx])]
    simp [h.admitted]
  taken key other := by
    rw [List.mem_append, h.taken]
    by_cases hkey : x.sessionKey = key
    · rw [hwrites.iff_added ⟨hkey, rfl⟩]
      simp [hkey]
    · rw [hwrites.iff_kept (by simp [hx, hkey])]
      simp [Ne.symm hkey]
  withdrawn other := by
    rw [hwrites.iff_kept (by simp [hx, hqueued])]
    simp [h.withdrawn]
  finished other := by
    rw [hwrites.iff_kept (by simp [hx])]
    simp [h.finished]
  justified := by
    refine h.justified.snoc ⟨(h.admitted _ run).mpr ⟨x, hx, rfl⟩, ?_, ?_, ?_, ?_⟩
    · intro hmem
      obtain ⟨x', hx', hwithdrawn⟩ := (h.withdrawn run).mp hmem
      obtain rfl := Option.some.inj (hx.symm.trans hx')
      rw [hqueued] at hwithdrawn
      cases hwithdrawn
    · intro hmem
      obtain ⟨x', hx', -, htaken⟩ := (h.taken _ run).mp hmem
      obtain rfl := Option.some.inj (hx.symm.trans hx')
      rw [hqueued] at htaken
      cases htaken
    · intro other hmem
      obtain ⟨v, hv, hkey, htaken⟩ := (h.taken _ other).mp hmem
      exact (h.finished other).mpr ⟨v, hv, hearlier other v hv hkey htaken⟩
    · intro other hlt hmem
      obtain ⟨v, hv, hkey⟩ := (h.admitted _ other).mp hmem
      cases hposition : v.position with
      | queued => exact absurd hposition (hfirst other hlt v hv hkey)
      | withdrawn => exact Or.inr ((h.withdrawn other).mpr ⟨v, hv, hposition⟩)
      | taken => exact Or.inl ((h.taken _ other).mpr ⟨v, hv, hkey, hposition⟩)

lemma Recorded.enter (hx : view run = none)
    (hnew : ∀ other v, view other = some v → other < run) {key : κ}
    (hwrites : Writes view view' run ⟨key, .queued, false⟩) :
    Recorded view' (history ++ [.admitted key run]) where
  admitted key' other := by
    rw [List.mem_append, h.admitted]
    by_cases hkey : key = key'
    · rw [hwrites.iff_added hkey]
      simp [hkey]
    · rw [hwrites.iff_kept (by simp [hx, hkey])]
      simp [Ne.symm hkey]
  taken key' other := by
    rw [hwrites.iff_kept (by simp [hx])]
    simp [h.taken]
  withdrawn other := by
    rw [hwrites.iff_kept (by simp [hx])]
    simp [h.withdrawn]
  finished other := by
    rw [hwrites.iff_kept (by simp [hx])]
    simp [h.finished]
  justified := by
    refine h.justified.snoc fun key' other hmem => ?_
    obtain ⟨v, hv, -⟩ := (h.admitted key' other).mp hmem
    exact hnew other v hv

end

/-! ## The history over a step -/

variable {config : LaneConfig} {s : LaneRuntime κ} {v v' : TurnRun κ}

lemma writes_update (view : ℕ → Option (RunView κ)) (run : ℕ) (y : RunView κ) :
    Writes view (Function.update view run (some y)) run y :=
  ⟨Function.update_self .., fun _ hother => Function.update_of_ne hother ..⟩

lemma writes_setRun (s : LaneRuntime κ) (run : ℕ) (v' : TurnRun κ) :
    Writes s.view (s.setRun run v').view run v'.view := by
  constructor
  · simp [LaneRuntime.view]
  · intro other hother
    simp [LaneRuntime.view, hother]

lemma view_eq_some {s : LaneRuntime κ} {other : ℕ} {x : RunView κ} :
    s.view other = some x ↔ ∃ w, s.runs other = some w ∧ w.view = x :=
  Option.map_eq_some_iff

lemma view_setRun_of_same (hv : s.runs run = some v) (hsame : v'.view = v.view) :
    (s.setRun run v').view = s.view := by
  funext other
  by_cases hother : other = run
  · subst hother
    simp [LaneRuntime.view, hv, hsame]
  · simp [LaneRuntime.view, hother]

variable [DecidableEq κ]

lemma view_leave (key : κ) (run : ℕ) : (s.leave key run).view = s.view := by
  unfold LaneRuntime.view
  rw [runs_leave]

lemma view_admitting (key : κ) : (s.admitting key).view = s.view := by
  unfold LaneRuntime.view
  rw [runs_admitting]

/-- **The history is kept in order** by every step. -/
theorem Recorded.step {t : LaneRuntime κ} (hplaced : s.Placed) (h : Recorded s.view s.history)
    (hstep : Stepped config s t) : Recorded t.view t.history := by
  have hnone : s.view s.admitted = none := by
    rw [LaneRuntime.view, hplaced.numbered.new]
    rfl
  have hnew : ∀ other x, s.view other = some x → other < s.admitted := by
    intro other x hx
    obtain ⟨w, hw, -⟩ := view_eq_some.mp hx
    exact (hplaced.numbered other).mp ⟨w, hw⟩
  have hquiet : ∀ {run : ℕ} {v v' : TurnRun κ}, s.runs run = some v → s.Quiet v v' →
      v'.finished = v.finished → (s.setRun run v').view = s.view := by
    intro run v v' hv hquiet hfinished
    refine view_setRun_of_same hv ?_
    rw [TurnRun.view, TurnRun.view, hquiet.sessionKey, hquiet.position, hfinished]
  cases hstep with
  | gate accepting => exact h
  | refuse key inputBytes =>
    -- Admitted, withdrawn and finished at once.
    have hadmitted := h.enter hnone hnew (writes_update _ _ ⟨key, .queued, false⟩)
    have hwithdrawn := hadmitted.withdraw (Function.update_self ..) rfl (writes_update _ _ _)
    have hfinished := hwithdrawn.finish (Function.update_self ..) rfl (writes_update _ _ _)
    have hpublished := hfinished.published (Function.update_self ..) (by simp)
    have hview : ((s.admitting key).setRun s.admitted (.refused key inputBytes)).view =
        Function.update s.view s.admitted (some ⟨key, .withdrawn, true⟩) := by
      funext other
      by_cases hother : other = s.admitted
      · subst hother
        simp [LaneRuntime.view, TurnRun.view, TurnRun.refused]
      · simp [LaneRuntime.view, hother]
    rw [record_leave]
    change Recorded (LaneRuntime.leave _ _ _).view ((LaneRuntime.leave _ _ _).history ++ _)
    rw [view_leave, history_leave, hview]
    change Recorded _ ((s.admitting key).history ++ _)
    rw [history_admitting]
    simpa using hpublished
  | enter key inputBytes hroom =>
    refine h.enter hnone hnew ?_
    have hwrites := writes_setRun (s.admitting key) s.admitted
      { sessionKey := key, inputBytes := inputBytes }
    rw [view_admitting] at hwrites
    exact hwrites
  | take lane run v queue hqueue hidle hout =>
    refine h.take (x := v.view) (view_eq_some.mpr ⟨v, hout.runs_eq, rfl⟩) hout.queued
      (writes_setRun _ run { v with position := .taken }) ?_ ?_
    · intro other x hx hkey htaken
      obtain ⟨w, hw, rfl⟩ := view_eq_some.mp hx
      by_contra hnot
      have hsound := hplaced.laid.sound other w hw
      have hrelease : w.release ≠ .left := by
        intro hleft
        exact hnot (hsound.finished_iff.mpr (by simp [hleft]))
      obtain ⟨lane', hlane', hrunning⟩ := hplaced.laid.taken other w hw htaken hrelease
      have hsame : lane' = lane := by
        refine Option.some.inj (hlane'.symm.trans ?_)
        rw [show w.sessionKey = v.sessionKey from hkey]
        exact hout.lanes_eq
      rw [hsame, hidle] at hrunning
      cases hrunning
    · intro other hlt x hx hkey hqueued
      obtain ⟨w, hw, rfl⟩ := view_eq_some.mp hx
      obtain ⟨lane', hlane', hmem⟩ := hplaced.laid.queued other w hw hqueued
      have hsame : lane' = lane := by
        refine Option.some.inj (hlane'.symm.trans ?_)
        rw [show w.sessionKey = v.sessionKey from hkey]
        exact hout.lanes_eq
      have hsorted := hplaced.laid.sorted lane
      rw [hsame, hqueue] at hmem
      rw [hqueue] at hsorted
      rcases List.mem_cons.mp hmem with rfl | hmem
      · exact Nat.lt_irrefl _ hlt
      · exact Nat.lt_asymm hlt ((List.pairwise_cons.mp hsorted).1 other hmem)
  | withdraw lane run v hout =>
    exact h.withdraw (x := v.view) (view_eq_some.mpr ⟨v, hout.runs_eq, rfl⟩) hout.queued
      (writes_setRun _ run { v with cancelling := .done, position := .withdrawn })
  | change run v v' hv hchange hfinished hrelease =>
    rw [hquiet hv hchange hfinished]
    exact h
  | publish run v hv hposition =>
    exact h.published (view_eq_some.mpr ⟨v, hv, rfl⟩) hposition
  | finish run v hv hchange hrelease =>
    have hnot : v.finished = false := by
      by_contra hfinished
      exact (hplaced.laid.sound run v hv).finished_iff.mp (by simpa using hfinished) hrelease
    exact h.finish (x := v.view) (view_eq_some.mpr ⟨v, hv, rfl⟩) hnot
      (writes_setRun s run { v with finished := true, release := .claimed })
  | uncount run v hv hchange hrelease =>
    have hsame := hquiet hv hchange rfl
    exact hsame ▸ h
  | unbill run v hv hchange hrelease =>
    have hsame := hquiet hv hchange rfl
    exact hsame ▸ h
  | leave run v hout hrelease =>
    have hsame : (s.setRun run { v with release := .left }).view = s.view :=
      view_setRun_of_same hout.runs_eq rfl
    rw [view_leave, history_leave, hsame]
    exact h

theorem recorded_reached (actions : List (LaneAction κ)) :
    Recorded (reached config actions).view (reached config actions).history := by
  have hboth : (reached config actions).Placed ∧
      Recorded (reached config actions).view (reached config actions).history := by
    refine List.foldlRecOn actions _
      (motive := fun s : LaneRuntime κ => s.Placed ∧ Recorded s.view s.history)
      ⟨placed_initial, recorded_initial⟩ ?_
    rintro s ⟨hplaced, h⟩ action -
    have hstep : Stepped config s (s.after config action) := stepped_after hplaced.laid action
    exact ⟨hplaced.step hstep, h.step hplaced hstep⟩
  exact hboth.2

end LaneRuntime

end JaDesktop.Sidecar
