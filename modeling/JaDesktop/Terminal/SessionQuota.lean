import Mathlib.Data.Finset.Card
import JaDesktop.Terminal.SessionEnds
import JaDesktop.Terminal.Supervisor

/-!
# The quota of the sessions

A session is over when it has reached its terminal event and all its workers have ended.  The map drops
a session only when it is over, and only sessions of the map count.  But the map asks for more than
that: a session that is over leaves it only when some close has taken the join handles of its workers,
and a shell that exits by itself takes none.  So the quota is kept exactly by the runs in which no
`open` meets such a session where it matters.
-/

namespace JaDesktop.Terminal

/-! ## One session -/

namespace SessionOwner

/-- What holds of a session at any time: the counter counts the running workers, the handles are all
there or all taken, and they have been taken only from a session that is over. -/
structure Sound (t : SessionOwner) : Prop where
  remaining : t.tracker.remaining = Worker.all.countP fun worker => t.life worker = .running
  handles : t.tracker.handles = [] ∨ t.tracker.handles = Worker.all
  collected : t.tracker.handles = [] → t.hasEnded = true

/-- What time does to a session: an end stays. -/
structure Later (t t' : SessionOwner) : Prop where
  sent : t.terminalSent = true → t'.terminalSent = true
  finished : ∀ worker, (t.life worker).isFinished = true → (t'.life worker).isFinished = true

variable {t t' : SessionOwner}

lemma Later.refl (t : SessionOwner) : t.Later t := ⟨id, fun _ => id⟩

lemma workersEnded_iff : t.workersEnded = true ↔ ∀ worker, (t.life worker).isFinished = true := by
  rw [workersEnded, List.all_eq_true]
  constructor
  · intro h worker
    exact h worker (by cases worker <;> simp [Worker.all])
  · exact fun h worker _ => h worker

lemma hasEnded_iff : t.hasEnded = true ↔
    t.terminalSent = true ∧ ∀ worker, (t.life worker).isFinished = true := by
  rw [hasEnded, Bool.and_eq_true, workersEnded_iff]

lemma Later.hasEnded (h : t.Later t') (hover : t.hasEnded = true) : t'.hasEnded = true := by
  obtain ⟨hsent, hfinished⟩ := hasEnded_iff.mp hover
  exact hasEnded_iff.mpr ⟨h.sent hsent, fun worker => h.finished worker (hfinished worker)⟩

lemma Sound.isReclaimable_iff (h : t.Sound) : t.isReclaimable = true ↔ t.tracker.handles = [] := by
  simp only [isReclaimable, WorkerTracker.isReaped, Bool.and_eq_true, beq_iff_eq,
    List.isEmpty_iff]
  constructor
  · exact fun hall => hall.2.2
  · intro hnil
    obtain ⟨hsent, hfinished⟩ := hasEnded_iff.mp (h.collected hnil)
    refine ⟨hsent, ?_, hnil⟩
    rw [h.remaining, List.countP_eq_zero]
    intro worker _ hrunning
    have := hfinished worker
    rw [of_decide_eq_true hrunning] at this
    cases this

lemma sound_spawn (id : ℕ) (limits : TerminalLimits) : (spawn id limits).Sound := by
  refine ⟨rfl, .inr rfl, fun h => ?_⟩
  cases h

/-- A session whose workers and handles are as before is as sound as before. -/
lemma Sound.of_session (h : t.Sound) {session : Session}
    (hsent : t.terminalSent = true → session.runtime.lifecycle.terminalSent = true) :
    ({ t with session } : SessionOwner).Sound ∧ t.Later { t with session } := by
  have hlater : t.Later { t with session } := ⟨hsent, fun _ => id⟩
  exact ⟨⟨h.remaining, h.handles, fun hnil => hlater.hasEnded (h.collected hnil)⟩, hlater⟩

lemma sent_of_step {s s' : Session} {action : Action} (h : s.Step action s')
    (hsent : s.runtime.lifecycle.terminalSent = true) :
    s'.runtime.lifecycle.terminalSent = true := by
  obtain ⟨r', p', heffect, rfl⟩ := h.parts
  obtain ⟨thread, answer, noted⟩ := action
  show r'.lifecycle.terminalSent = true
  dsimp only at heffect
  cases heffect with
  | quiet hsame => rw [hsame, hsent]
  | claims _ hsent' => exact hsent'
  | pushes | publishes | closes | receives => exact hsent

lemma Sound.sessionStep (h : t.Sound) {action : Action} (hstep : t.sessionStep action = some t') :
    t'.Sound ∧ t.Later t' := by
  have hparts : ∃ session, t.session.Step action session ∧ t' = { t with session } := by
    rw [SessionOwner.sessionStep.eq_def] at hstep
    split at hstep
    · cases hstep
    · split_ifs at hstep
      obtain ⟨session, hafter, rfl⟩ := Option.map_eq_some_iff.mp hstep
      exact ⟨session, hafter, rfl⟩
  obtain ⟨session, hsession, rfl⟩ := hparts
  exact h.of_session (sent_of_step hsession)

variable {worker : Worker}

lemma countP_update {life : Worker → Life} {new : Life} (hnew : new ≠ .running) :
    Worker.all.countP (fun v => Function.update life worker new v = .running) =
      Worker.all.countP (fun v => life v = .running) -
        if life worker = .running then 1 else 0 := by
  cases worker <;>
    simp only [Worker.all, List.countP_cons, List.countP_nil, Function.update_self, hnew, ne_eq,
      reduceCtorEq, not_false_eq_true, Function.update_of_ne, decide_false, decide_eq_true_eq,
      Bool.false_eq_true, if_false] <;>
    split_ifs <;> omega

lemma Later.update {new : Life} {tracker : WorkerTracker}
    (hbefore : (t.life worker).isFinished = false) :
    t.Later { t with tracker, life := Function.update t.life worker new } := by
  refine ⟨id, fun other hother => ?_⟩
  by_cases heq : other = worker
  · subst heq
    rw [hbefore] at hother
    cases hother
  · show (Function.update t.life worker new other).isFinished = true
    rwa [Function.update_of_ne heq]

lemma Sound.release (h : t.Sound) {panicked : Bool} (hstep : t.release worker panicked = some t') :
    t'.Sound ∧ t.Later t' := by
  rw [SessionOwner.release] at hstep
  split_ifs at hstep with hcond
  obtain rfl := Option.some_inj.mp hstep
  obtain ⟨hrunning, -⟩ := hcond
  have hunfinished : (t.life worker).isFinished = false := by rw [hrunning]; rfl
  have hlater : t.Later { t with
      tracker := t.tracker.done
      life := Function.update t.life worker (.released panicked) } := .update hunfinished
  -- a running worker keeps its slot, so the counter is not zero
  have hpos : t.tracker.remaining ≠ 0 := by
    rw [h.remaining]
    refine (List.countP_pos_iff.mpr ⟨worker, ?_, decide_eq_true hrunning⟩).ne'
    cases worker <;> simp [Worker.all]
  refine ⟨⟨?_, ?_, ?_⟩, hlater⟩
  · show (WorkerTracker.done t.tracker).remaining = _
    rw [WorkerTracker.done, if_pos hpos, countP_update (by simp), if_pos hrunning, h.remaining]
  · rw [WorkerTracker.done, if_pos hpos]
    exact h.handles
  · rw [WorkerTracker.done, if_pos hpos]
    intro hnil
    obtain ⟨-, hfinished⟩ := hasEnded_iff.mp (h.collected hnil)
    rw [hfinished worker] at hunfinished
    cases hunfinished

lemma Sound.finish (h : t.Sound) (hstep : t.finish worker = some t') :
    t'.Sound ∧ t.Later t' := by
  rw [SessionOwner.finish.eq_def] at hstep
  split at hstep
  next panicked hreleased =>
    obtain rfl := Option.some_inj.mp hstep
    have hlater : t.Later { t with life := Function.update t.life worker (.finished panicked) } :=
      .update (by rw [hreleased]; rfl)
    refine ⟨⟨?_, h.handles, fun hnil => hlater.hasEnded (h.collected hnil)⟩, hlater⟩
    show t.tracker.remaining = _
    rw [countP_update (by simp), if_neg (by simp [hreleased]), h.remaining, Nat.sub_zero]
  next => cases hstep

end SessionOwner

/-! ## Closing -/

/-- What a stage of `close_until` has seen of the session. -/
def CloseStage.Sound (t : SessionOwner) : CloseStage → Prop
  | closing _ => True
  | publishing _ | stopping | counting _ | polling _ => t.terminalSent = true
  | taking _ | joining _ _ => t.hasEnded = true
  | ending _ reap => reap ≠ .timeout → t.hasEnded = true

lemma CloseStage.Sound.later {t t' : SessionOwner} {stage : CloseStage} (h : stage.Sound t)
    (hlater : t.Later t') : stage.Sound t' := by
  cases stage with
  | closing => trivial
  | publishing | stopping | counting | polling => exact hlater.sent h
  | taking | joining => exact hlater.hasEnded h
  | ending => exact fun hne => hlater.hasEnded (h hne)

/-- What a step of `close_until` ensures of the next stage, and what its success says. -/
def CloseEnsures (t : SessionOwner) : CloseStage ⊕ Except TerminalErrorCode Unit → Prop
  | .inl stage => stage.Sound t
  | .inr result => result = .ok () → t.hasEnded = true

lemma TerminalRuntime.closeSection_sent (r : TerminalRuntime) :
    r.closeSection.2.lifecycle.terminalSent = true := by
  rw [closeSection]
  split_ifs with hsent
  · exact hsent
  · rfl

/-- **A step of `close_until`** keeps the session sound; it takes the handles only when the session is
over, and succeeds only then. -/
theorem SessionOwner.Sound.closeStep {t t' : SessionOwner} (h : t.Sound) {stage : CloseStage}
    {answer : CloseAnswer} {next : CloseStage ⊕ Except TerminalErrorCode Unit}
    (hstage : stage.Sound t) (hstep : t.closeStep stage answer = some (t', next)) :
    (t'.Sound ∧ t.Later t') ∧ CloseEnsures t' next := by
  rw [SessionOwner.closeStep.eq_def] at hstep
  split at hstep
  next reason =>
    obtain ⟨rfl, rfl⟩ := Prod.mk.inj (Option.some_inj.mp hstep)
    have hsent := t.session.runtime.closeSection_sent
    refine ⟨h.of_session fun _ => hsent, ?_⟩
    dsimp only [CloseEnsures]
    split_ifs <;> exact hsent
  next reason =>
    obtain ⟨rfl, rfl⟩ := Prod.mk.inj (Option.some_inj.mp hstep)
    exact ⟨h.of_session id, hstage⟩
  next ok =>
    obtain ⟨rfl, rfl⟩ := Prod.mk.inj (Option.some_inj.mp hstep)
    exact ⟨h.of_session id, hstage⟩
  next cleanup passed =>
    split_ifs at hstep <;> obtain ⟨rfl, rfl⟩ := Prod.mk.inj (Option.some_inj.mp hstep)
    · exact ⟨⟨h, .refl t⟩, hstage⟩
    · exact ⟨⟨h, .refl t⟩, fun hne => absurd rfl hne⟩
  next cleanup passed =>
    split_ifs at hstep with hall <;> obtain ⟨rfl, rfl⟩ := Prod.mk.inj (Option.some_inj.mp hstep)
    · refine ⟨⟨h, .refl t⟩, (?_ : t.hasEnded = true)⟩
      rcases h.handles with hnil | hfull
      · exact h.collected hnil
      · rw [hfull] at hall
        exact hasEnded_iff.mpr ⟨hstage, workersEnded_iff.mp hall⟩
    · exact ⟨⟨h, .refl t⟩, fun hne => absurd rfl hne⟩
  next cleanup =>
    obtain ⟨rfl, rfl⟩ := Prod.mk.inj (Option.some_inj.mp hstep)
    exact ⟨⟨⟨h.remaining, .inl rfl, fun _ => hstage⟩, ⟨id, fun _ => id⟩⟩, hstage⟩
  next cleanup handles =>
    split_ifs at hstep <;> obtain ⟨rfl, rfl⟩ := Prod.mk.inj (Option.some_inj.mp hstep) <;>
      exact ⟨⟨h, .refl t⟩, fun _ => hstage⟩
  next cleanup reap =>
    obtain ⟨rfl, rfl⟩ := Prod.mk.inj (Option.some_inj.mp hstep)
    refine ⟨h.of_session id, fun hok => ?_⟩
    refine (h.of_session id).2.hasEnded (hstage ?_)
    rintro rfl
    cases cleanup <;> cases hok
  next => cases hstep

/-! ## The supervisor -/

/-- The sessions that a closer has still before it. -/
def Closer.rest : Closer → List ℕ
  | handle | supervisor => []
  | shutdown rest _ => rest

/-- What a caller of the supervisor has seen. -/
def Call.Sound (s : Supervisor) : Call → Prop
  | idle => True
  | closing closer id stage =>
    (id < s.nextId ∧ stage.Sound (s.owners id)) ∧ ∀ next ∈ closer.rest, next < s.nextId
  | removing closer id =>
    (id < s.nextId ∧ (s.owners id).hasEnded = true) ∧ ∀ next ∈ closer.rest, next < s.nextId
  | shuttingDown rest _ => ∀ next ∈ rest, next < s.nextId

namespace Supervisor

/-- What holds of a supervisor at any time: the map is within the quota, and what has left it is
over. -/
structure Sound (s : Supervisor) : Prop where
  owner : ∀ id, (s.owners id).Sound
  known : ∀ id ∈ s.sessions, id < s.nextId
  nodup : s.sessions.Nodup
  room : s.sessions.length ≤ s.limits.maxSessions
  dropped : ∀ id < s.nextId, id ∉ s.sessions → (s.owners id).hasEnded = true
  call : ∀ caller, (s.call caller).Sound s

/-- What time does to the sessions that have been opened. -/
structure Later (s s' : Supervisor) : Prop where
  nextId : s.nextId ≤ s'.nextId
  owner : ∀ id < s.nextId, (s.owners id).Later (s'.owners id)

variable {s s' : Supervisor}

lemma sound_new (limits : TerminalLimits) : (new limits).Sound where
  owner id := SessionOwner.sound_spawn id limits
  known := by simp [new]
  nodup := List.nodup_nil
  room := Nat.zero_le _
  dropped := by simp [new]
  call _ := trivial

end Supervisor

lemma Call.Sound.later {s s' : Supervisor} {call : Call} (h : call.Sound s) (hlater : s.Later s') :
    call.Sound s' := by
  have hid : ∀ {id : ℕ}, id < s.nextId → id < s'.nextId := fun hlt => hlt.trans_le hlater.nextId
  cases call with
  | idle => trivial
  | closing closer id stage =>
    exact ⟨⟨hid h.1.1, h.1.2.later (hlater.owner id h.1.1)⟩, fun next hnext => hid (h.2 next hnext)⟩
  | removing closer id =>
    exact ⟨⟨hid h.1.1, (hlater.owner id h.1.1).hasEnded h.1.2⟩, fun next hnext => hid (h.2 next hnext)⟩
  | shuttingDown rest failed => exact fun next hnext => hid (h next hnext)

namespace Supervisor

variable {s : Supervisor}

variable {id : ℕ}

lemma Sound.put (h : s.Sound) {t : SessionOwner} (hsound : t.Sound) (hlater : (s.owners id).Later t)
    : (s.put id t).Sound ∧ s.Later (s.put id t) := by
  have hl : s.Later (s.put id t) := by
    refine ⟨le_rfl, fun other _ => ?_⟩
    rcases eq_or_ne other id with rfl | hne
    · simpa [Supervisor.put] using hlater
    · simpa [Supervisor.put, hne] using SessionOwner.Later.refl (s.owners other)
  refine ⟨⟨fun other => ?_, h.known, h.nodup, h.room, ?_, ?_⟩, hl⟩
  · rcases eq_or_ne other id with rfl | hne
    · simpa [Supervisor.put] using hsound
    · simpa [Supervisor.put, hne] using h.owner other
  · exact fun other hlt hgone => (hl.owner other hlt).hasEnded (h.dropped other hlt hgone)
  · exact fun caller => (h.call caller).later hl

lemma Sound.goTo (h : s.Sound) {caller : ℕ} {call : Call} (hcall : call.Sound s) :
    (s.goTo caller call).Sound := by
  have hsame : s.Later (s.goTo caller call) := ⟨le_rfl, fun id _ => .refl (s.owners id)⟩
  refine ⟨h.owner, h.known, h.nodup, h.room, h.dropped, fun other => ?_⟩
  rcases eq_or_ne other caller with rfl | hne
  · simpa [Supervisor.goTo] using hcall.later hsame
  · simpa [Supervisor.goTo, hne] using (h.call other).later hsame

lemma Sound.keep (h : s.Sound) (p : ℕ → Bool)
    (hover : ∀ id ∈ s.sessions, p id = false → (s.owners id).hasEnded = true) :
    ({ s with sessions := s.sessions.filter p } : Supervisor).Sound := by
  refine ⟨h.owner, fun id hid => h.known id (List.mem_filter.mp hid).1, h.nodup.filter p,
    (List.length_filter_le p s.sessions).trans h.room, fun id hlt hgone => ?_, fun caller => ?_⟩
  · by_cases hid : id ∈ s.sessions
    · refine hover id hid ?_
      by_contra hkept
      exact hgone (List.mem_filter.mpr ⟨hid, by simpa using hkept⟩)
    · exact h.dropped id hlt hid
  · exact (h.call caller).later ⟨le_rfl, fun id _ => .refl (s.owners id)⟩

/-- `retain` drops only sessions that are over. -/
lemma Sound.hasEnded_of_reclaimable (h : s.Sound) (hid : (s.owners id).isReclaimable = true) :
    (s.owners id).hasEnded = true :=
  (h.owner id).collected ((h.owner id).isReclaimable_iff.mp hid)

/-- `open` keeps what holds of the supervisor. -/
lemma Sound.open (h : s.Sound) (spawned : Except SpawnError Unit) : (s.open spawned).2.Sound := by
  have hkept : ({ s with sessions := s.counted } : Supervisor).Sound :=
    h.keep _ fun id _ hout => h.hasEnded_of_reclaimable (by simpa using hout)
  rw [Supervisor.open.eq_def]
  dsimp only
  split_ifs with hfull
  · exact hkept
  rcases spawned with error | ⟨⟨⟩⟩
  · exact hkept
  -- the new session is in the map, and the others are where they were
  · have hl : ({ s with sessions := s.counted } : Supervisor).Later
        { s with
          nextId := s.nextId + 1
          sessions := s.counted ++ [s.nextId]
          owners := Function.update s.owners s.nextId (SessionOwner.spawn s.nextId s.limits) } := by
      refine ⟨Nat.le_succ _, fun id hlt => ?_⟩
      have hne : id ≠ s.nextId := Nat.ne_of_lt hlt
      simpa [hne] using SessionOwner.Later.refl (s.owners id)
    refine ⟨fun id => ?_, fun id hid => ?_, ?_, ?_, fun id hlt hgone => ?_, fun caller => ?_⟩
    · rcases eq_or_ne id s.nextId with rfl | hne
      · simpa using SessionOwner.sound_spawn s.nextId s.limits
      · simpa [hne] using h.owner id
    · rcases List.mem_append.mp hid with hold | hnew
      · exact (hkept.known id hold).trans (Nat.lt_succ_self _)
      · rw [List.mem_singleton.mp hnew]
        exact Nat.lt_succ_self _
    · refine List.nodup_append.mpr ⟨hkept.nodup, List.nodup_singleton _, ?_⟩
      exact fun id hid => List.forall_mem_singleton.mpr (Nat.ne_of_lt (hkept.known id hid))
    · show (s.counted ++ [s.nextId]).length ≤ s.limits.maxSessions
      rw [List.length_append, List.length_singleton]
      exact Nat.lt_of_not_ge hfull
    · simp only [List.mem_append, List.mem_singleton, not_or] at hgone
      have hlt' : id < s.nextId := by
        have hle : id ≤ s.nextId := Nat.lt_succ_iff.mp hlt
        exact lt_of_le_of_ne hle hgone.2
      exact (hl.owner id hlt').hasEnded (hkept.dropped id hlt' hgone.1)
    · exact (hkept.call caller).later hl

lemma get_eq_ok {generation found : ℕ} (h : s.get id generation = .ok found) :
    found = id ∧ id ∈ s.sessions := by
  rw [Supervisor.get] at h
  split_ifs at h with hid
  cases htoken : (s.owners id).validateToken generation with
  | error code =>
    rw [htoken] at h
    cases h
  | ok =>
    rw [htoken] at h
    have hfound : (Except.ok id : Except TerminalErrorCode ℕ) = .ok found := h
    exact ⟨(Except.ok.inj hfound).symm, hid⟩

/-! ### Steps -/

/-- What a step of a sound supervisor does. -/
inductive Change (s : Supervisor) : Supervisor → Prop
  | opens (spawned : Except SpawnError Unit) : Change s (s.open spawned).2
  | stays : Change s s
  | calls {caller : ℕ} {call : Call} (hcall : call.Sound s) : Change s (s.goTo caller call)
  | inside {id : ℕ} {t : SessionOwner} (hsound : t.Sound) (hlater : (s.owners id).Later t) :
      Change s (s.put id t)
  | closes {id caller : ℕ} {t : SessionOwner} {call : Call} (hsound : t.Sound)
      (hlater : (s.owners id).Later t) (hcall : call.Sound (s.put id t)) :
      Change s ((s.put id t).goTo caller call)
  | removes {id caller : ℕ} {call : Call} (hover : (s.owners id).hasEnded = true) (hcall : call.Sound s) :
      Change s (({ s with sessions := s.sessions.filter (· ≠ id) } : Supervisor).goTo caller call)

lemma Sound.change_of_proceed {s' : Supervisor} (h : s.Sound) {caller : ℕ} {answer : CloseAnswer}
    (hstep : s.proceed caller answer = some s') : Change s s' := by
  have hcall := h.call caller
  rw [Supervisor.proceed.eq_def] at hstep
  split at hstep
  next => cases hstep
  next closer id stage hclosing =>
    rw [hclosing] at hcall
    obtain ⟨⟨t, next⟩, hclose, rfl⟩ := Option.map_eq_some_iff.mp hstep
    obtain ⟨⟨hsound, hlater⟩, hensures⟩ := (h.owner id).closeStep hcall.1.2 hclose
    have hself : (s.put id t).owners id = t := by simp [Supervisor.put]
    refine .closes hsound hlater ?_
    rcases next with stage' | result
    · refine ⟨⟨hcall.1.1, ?_⟩, hcall.2⟩
      rw [hself]
      exact hensures
    -- only a success goes on to the map
    · have hover (hok : result = .ok ()) : ((s.put id t).owners id).hasEnded = true := by
        rw [hself]
        exact hensures hok
      rcases closer with _ | _ | ⟨rest, failed⟩ <;> rcases result with error | ⟨⟨⟩⟩
      · trivial
      · trivial
      · trivial
      · exact ⟨⟨hcall.1.1, hover rfl⟩, hcall.2⟩
      · exact hcall.2
      · exact ⟨⟨hcall.1.1, hover rfl⟩, hcall.2⟩
  next closer id hremoving =>
    rw [hremoving] at hcall
    obtain rfl := Option.some_inj.mp hstep
    refine .removes hcall.1.2 ?_
    rcases closer with _ | _ | ⟨rest, failed⟩
    · trivial
    · trivial
    · exact hcall.2
  next =>
    obtain rfl := Option.some_inj.mp hstep
    exact .calls trivial
  next id rest failed hshutting =>
    rw [hshutting] at hcall
    obtain rfl := Option.some_inj.mp hstep
    refine .calls ⟨⟨hcall id List.mem_cons_self, trivial⟩, fun next hnext => ?_⟩
    exact hcall next (List.mem_cons_of_mem id hnext)

lemma Sound.change_of_inside {s' : Supervisor} {step : SessionOwner → Option SessionOwner}
    (hkeeps : ∀ {t}, step (s.owners id) = some t → t.Sound ∧ (s.owners id).Later t)
    (hstep : s.inside id step = some s') : Change s s' := by
  rw [Supervisor.inside] at hstep
  split_ifs at hstep
  obtain ⟨t, ht, rfl⟩ := Option.map_eq_some_iff.mp hstep
  exact .inside (hkeeps ht).1 (hkeeps ht).2

lemma Sound.change {s' : Supervisor} {action : SupervisorAction} (h : s.Sound)
    (hstep : s.Step action s') : Change s s' := by
  rw [Supervisor.Step, Supervisor.after?.eq_def] at hstep
  split at hstep
  next spawned =>
    obtain rfl := Option.some_inj.mp hstep
    exact .opens spawned
  next =>
    obtain rfl := Option.some_inj.mp hstep
    exact .stays
  next caller id generation reason =>
    split_ifs at hstep
    split at hstep
    next found hget =>
      obtain rfl := Option.some_inj.mp hstep
      obtain ⟨rfl, hid⟩ := get_eq_ok hget
      refine .calls ⟨⟨h.known _ hid, trivial⟩, ?_⟩
      simp [Closer.rest]
    next =>
      obtain rfl := Option.some_inj.mp hstep
      exact .stays
  next caller id reason =>
    split_ifs at hstep with hcond
    obtain rfl := Option.some_inj.mp hstep
    refine .calls ⟨⟨hcond.2, trivial⟩, ?_⟩
    simp [Closer.rest]
  next caller order =>
    split_ifs at hstep with hcond
    obtain rfl := Option.some_inj.mp hstep
    exact .calls fun next hnext => h.known next (hcond.2.mem_iff.mp hnext)
  next caller answer => exact h.change_of_proceed hstep
  next id action => exact Sound.change_of_inside (h.owner id).sessionStep hstep
  next id worker panicked => exact Sound.change_of_inside (h.owner id).release hstep
  next id worker => exact Sound.change_of_inside (h.owner id).finish hstep

variable {s' : Supervisor} {action : SupervisorAction}

/-- **Every step keeps what holds of the supervisor.** -/
theorem Sound.step (h : s.Sound) (hstep : s.Step action s') : s'.Sound := by
  cases h.change hstep with
  | opens spawned => exact h.open spawned
  | stays => exact h
  | calls hcall => exact h.goTo hcall
  | inside hsound hlater => exact (h.put hsound hlater).1
  | closes hsound hlater hcall => exact (h.put hsound hlater).1.goTo hcall
  | removes hover hcall =>
    refine (h.keep _ fun other _ hout => ?_).goTo hcall
    obtain rfl := of_decide_eq_false hout |> not_not.mp
    exact hover

/-- What `open` leaves in the map. -/
lemma mem_open {spawned : Except SpawnError Unit} (hid : id ∈ s.counted) :
    id ∈ (s.open spawned).2.sessions := by
  rw [Supervisor.open.eq_def]
  dsimp only
  split_ifs
  · exact hid
  rcases spawned with error | ⟨⟨⟩⟩
  · exact hid
  · exact List.mem_append_left _ hid

/-- **The map drops only sessions that are over.** -/
theorem Sound.hasEnded_of_dropped (h : s.Sound) (hstep : s.Step action s') (hid : id ∈ s.sessions)
    (hgone : id ∉ s'.sessions) : (s.owners id).hasEnded = true := by
  cases h.change hstep with
  | opens spawned =>
    by_contra hover
    refine hgone (mem_open (List.mem_filter.mpr ⟨hid, ?_⟩))
    rw [Bool.not_eq_true', Bool.eq_false_iff]
    exact fun hreclaimable => hover (h.hasEnded_of_reclaimable hreclaimable)
  | stays | calls | inside | closes => exact absurd hid hgone
  | @removes removed _ _ hover =>
    obtain rfl : id = removed := by
      by_contra hne
      exact hgone (List.mem_filter.mpr ⟨hid, decide_eq_true hne⟩)
    exact hover

lemma Sound.limits_eq (h : s.Sound) (hstep : s.Step action s') : s'.limits = s.limits := by
  cases h.change hstep with
  | opens spawned =>
    rw [Supervisor.open.eq_def]
    dsimp only
    split_ifs
    · rfl
    · rcases spawned with error | ⟨⟨⟩⟩ <;> rfl
  | stays | calls | inside | closes | removes => rfl

/-! ## The quota -/

/-- The sessions opened before that have a running worker or have not reached their terminal event. -/
def live (s : Supervisor) : Finset ℕ :=
  (Finset.range s.nextId).filter fun id => (s.owners id).hasEnded = false

/-- The shell of a session exited by itself: its worker saw the exit before anybody asked the session
to stop. -/
def ExitedItself (limits : TerminalLimits) (past : List SupervisorAction) (id : ℕ) : Prop :=
  ∃ before status rest t, past = before ++ .session id (.child, .childExited status, none) :: rest ∧
    Run Step (new limits) before t ∧ (t.owners id).session.runtime.stop = false

/-- What the quota promises of an `open`: it refuses only when enough sessions are live, and no session
counts whose shell exited by itself and whose workers have ended. -/
structure OpensWithin (limits : TerminalLimits) (past : List SupervisorAction) (s : Supervisor)
    (spawned : Except SpawnError Unit) : Prop where
  refused : (s.open spawned).1 = .error .sessionLimit → limits.maxSessions ≤ s.live.card
  counts : ∀ id ∈ s.counted, ExitedItself limits past id → (s.owners id).workersEnded = false

/-- What the quota promises of a step. -/
structure KeepsQuota (limits : TerminalLimits) (past : List SupervisorAction) (s : Supervisor)
    (action : SupervisorAction) (s' : Supervisor) : Prop where
  opens : ∀ spawned, action = .open spawned → OpensWithin limits past s spawned
  drops : ∀ id ∈ s.sessions, id ∉ s'.sessions → (s.owners id).workersEnded = true

/-- The handles of the workers have been taken where an `open` depends on it: from every session of the
map whose shell exited by itself and whose workers have ended, and from some session when the map is full
and a session in it is over. -/
structure Collected (limits : TerminalLimits) (past : List SupervisorAction) (s : Supervisor) :
    Prop where
  itself : ∀ id ∈ s.sessions, ExitedItself limits past id → (s.owners id).workersEnded = true →
    (s.owners id).tracker.handles = []
  full : limits.maxSessions ≤ s.sessions.length → (∃ id ∈ s.sessions, (s.owners id).hasEnded = true) →
    ∃ id ∈ s.sessions, (s.owners id).tracker.handles = []

variable {limits : TerminalLimits} {past : List SupervisorAction}

lemma Sound.mem_counted (h : s.Sound) :
    id ∈ s.counted ↔ id ∈ s.sessions ∧ (s.owners id).tracker.handles ≠ [] := by
  rw [counted, List.mem_filter, Bool.not_eq_true', Bool.eq_false_iff, Ne,
    (h.owner id).isReclaimable_iff]

/-- An `open` is refused exactly when as many sessions count as the quota allows. -/
lemma open_refused_iff {spawned : Except SpawnError Unit} :
    (s.open spawned).1 = .error .sessionLimit ↔ s.limits.maxSessions ≤ s.counted.length := by
  rw [Supervisor.open.eq_def]
  dsimp only
  split_ifs with hfull
  · exact iff_of_true rfl hfull
  · refine iff_of_false ?_ hfull
    rcases spawned with error | ⟨⟨⟩⟩
    · exact fun h => error.ne_sessionLimit (Except.error.inj h)
    · exact fun h => by cases h

lemma Sound.live_subset (h : s.Sound) : s.live ⊆ s.sessions.toFinset := by
  intro id hid
  obtain ⟨hlt, hlive⟩ := Finset.mem_filter.mp hid
  rw [List.mem_toFinset]
  by_contra hgone
  rw [h.dropped id (Finset.mem_range.mp hlt) hgone] at hlive
  cases hlive

/-- **When an `open` keeps the quota.** -/
theorem Sound.opensWithin_iff (h : s.Sound) (hlimits : s.limits = limits)
    (spawned : Except SpawnError Unit) : OpensWithin limits past s spawned ↔ Collected limits past s := by
  subst hlimits
  have hcard : s.sessions.toFinset.card = s.sessions.length := List.toFinset_card_of_nodup h.nodup
  constructor
  · intro hopens
    refine ⟨fun id hid hexited hended => ?_, fun hfull hover => ?_⟩
    · by_contra hhandles
      rw [hopens.counts id (h.mem_counted.mpr ⟨hid, hhandles⟩) hexited] at hended
      cases hended
    · obtain ⟨id, hid, hidover⟩ := hover
      by_contra hnone
      push Not at hnone
      -- all sessions of the full map count, and one of them is not live
      have hcounted : s.counted = s.sessions :=
        List.filter_eq_self.mpr fun other hother =>
          (List.mem_filter.mp (h.mem_counted.mpr ⟨hother, hnone other hother⟩)).2
      have hrefused : (s.open spawned).1 = .error .sessionLimit :=
        open_refused_iff.mpr (hfull.trans_eq (by rw [hcounted]))
      have hlive : s.live = s.sessions.toFinset := by
        refine Finset.eq_of_subset_of_card_le h.live_subset ?_
        rw [hcard]
        exact h.room.trans (hopens.refused hrefused)
      have hmem : id ∈ s.live := by
        rw [hlive, List.mem_toFinset]
        exact hid
      rw [(Finset.mem_filter.mp hmem).2] at hidover
      cases hidover
  · intro hcollected
    refine ⟨fun hrefused => ?_, fun id hid hexited => ?_⟩
    · have hfull := open_refused_iff.mp hrefused
      have hlength : s.counted.length = s.sessions.length :=
        le_antisymm (List.length_filter_le _ _) (h.room.trans hfull)
      have hcounted : s.counted = s.sessions := List.Sublist.eq_of_length List.filter_sublist hlength
      -- no session of the map has lost its handles, so none of them is over
      have hlive : s.sessions.toFinset ⊆ s.live := by
        intro id hid
        rw [List.mem_toFinset] at hid
        refine Finset.mem_filter.mpr ⟨Finset.mem_range.mpr (h.known id hid), ?_⟩
        by_contra hover
        rw [Bool.not_eq_false] at hover
        obtain ⟨other, hother, hnil⟩ := hcollected.full (hlength ▸ hfull) ⟨id, hid, hover⟩
        rw [← hcounted] at hother
        exact (h.mem_counted.mp hother).2 hnil
      calc s.limits.maxSessions ≤ s.counted.length := hfull
        _ = s.sessions.toFinset.card := by rw [hcard, hlength]
        _ ≤ s.live.card := Finset.card_le_card hlive
    · obtain ⟨hmap, hhandles⟩ := h.mem_counted.mp hid
      by_contra hended
      rw [Bool.not_eq_false] at hended
      exact hhandles (hcollected.itself id hmap hexited hended)

lemma sound_of_run (hrun : Run Step (new limits) past s) : s.Sound ∧ s.limits = limits :=
  hrun.stateInvariant (I := fun s => s.Sound ∧ s.limits = limits) ⟨sound_new limits, rfl⟩
    fun h hstep => ⟨h.1.step hstep, (h.1.limits_eq hstep).trans h.2⟩

/-- **When the quota is kept.**  All along the runs of a supervisor every step keeps the quota exactly
when every `open` meets sessions whose workers have been collected. -/
theorem quota_kept_iff (limits : TerminalLimits) (trace : List SupervisorAction) :
    (∀ past s action s', past ++ [action] <+: trace → Run Step (new limits) past s →
        s.Step action s' → KeepsQuota limits past s action s') ↔
      ∀ past s spawned, past ++ [.open spawned] <+: trace → Run Step (new limits) past s →
        Collected limits past s := by
  constructor
  · intro h past s spawned hprefix hrun
    obtain ⟨hsound, hlimits⟩ := sound_of_run hrun
    have hkeeps := h past s _ (s.open spawned).2 hprefix hrun rfl
    exact (hsound.opensWithin_iff hlimits spawned).mp (hkeeps.opens spawned rfl)
  · intro h past s action s' hprefix hrun hstep
    obtain ⟨hsound, hlimits⟩ := sound_of_run hrun
    constructor
    · rintro spawned rfl
      exact (hsound.opensWithin_iff hlimits spawned).mpr (h past s spawned hprefix hrun)
    · intro id hid hgone
      exact (Bool.and_eq_true_iff.mp (hsound.hasEnded_of_dropped hstep hid hgone)).2

/-- A policy for one session. -/
def oneSession : TerminalLimits := { TerminalLimits.default with maxSessions := 1 }

/-- The shell of the only session exits, and its workers end. -/
def shellExits : List SupervisorAction :=
  let status : ExitStatus := { code := 0, signal := none }
  [.open (.ok ()),
    .session 0 (.child, .childExited status, none), .session 0 (.child, .nothing, none),
    .session 0 (.child, .nothing, none), .session 0 (.child, .nothing, none),
    .session 0 (.reader, .noBytes, none), .session 0 (.reader, .nothing, none),
    .session 0 (.reader, .nothing, none),
    .session 0 (.reader, .nothing, some (.accepted
      { sessionId := 0, generation := 1, sequence := 1, kind := .exited status })),
    .session 0 (.reader, .nothing, none), .session 0 (.reader, .nothing, none),
    .session 0 (.writer, .nothing, none), .session 0 (.resize, .nothing, none),
    .release 0 .reader false, .release 0 .writer false, .release 0 .resize false,
    .release 0 .child false,
    .finish 0 .reader, .finish 0 .writer, .finish 0 .resize, .finish 0 .child]

/-- **A shell that exits by itself keeps its slot.**  Nobody has closed the session, so its handles are
still there, and the next `open` is refused although no session is live. -/
theorem exited_session_counts : oneSession.validate = .ok oneSession ∧
    ∃ s, Run Step (new oneSession) shellExits s ∧ ExitedItself oneSession shellExits 0 ∧
      (s.owners 0).hasEnded = true ∧ (s.open (.ok ())).1 = .error .sessionLimit ∧ s.live = ∅ ∧
      ¬ KeepsQuota oneSession shellExits s (.open (.ok ())) (s.open (.ok ())).2 := by
  refine ⟨rfl, ?_⟩
  obtain ⟨s, hs⟩ : ∃ s, shellExits.foldlM after? (new oneSession) = some s :=
    Option.isSome_iff_exists.mp rfl
  have hread {α : Type} (f : Supervisor → α) {x : α}
      (h : (shellExits.foldlM after? (new oneSession)).map f = some x) : f s = x := by
    rw [hs] at h
    exact Option.some_inj.mp h
  have hrun : Run Step (new oneSession) shellExits s := Run.of_foldlM hs fun _ _ _ _ h => h
  have hover : (s.owners 0).hasEnded = true := hread (fun s => (s.owners 0).hasEnded) rfl
  have hrefused : (s.open (.ok ())).1 = .error .sessionLimit :=
    hread (fun s => (s.open (.ok ())).1) rfl
  have hlive : s.live = ∅ := by
    refine Finset.filter_eq_empty_iff.mpr fun id hid => ?_
    rw [hread (·.nextId) (x := 1) rfl, Finset.mem_range, Nat.lt_one_iff] at hid
    rw [hid, hover]
    exact Bool.noConfusion
  have hexited : ExitedItself oneSession shellExits 0 := by
    obtain ⟨t, ht⟩ : ∃ t, [.open (.ok ())].foldlM after? (new oneSession) = some t :=
      Option.isSome_iff_exists.mp rfl
    refine ⟨[.open (.ok ())], _, _, t, rfl, Run.of_foldlM ht fun _ _ _ _ h => h, ?_⟩
    rw [← Option.some_inj.mp ht]
    rfl
  refine ⟨s, hrun, hexited, hover, hrefused, hlive, fun hkeeps => ?_⟩
  have hroom := (hkeeps.opens _ rfl).refused hrefused
  rw [hlive, Finset.card_empty] at hroom
  exact absurd hroom (by decide)

end Supervisor

end JaDesktop.Terminal
