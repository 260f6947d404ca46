import JaDesktop.Bridge.ExitReadiness
import JaDesktop.Lib.Runs

/-!
# Generations at the window

The worker of a runtime emits what its sidecar sends, and publishes a terminal fault when it must
end.  There is one slot for a fault.  The actor takes the fault of its own runtime out of it, and
clears it when it closes a runtime, before it makes a worker and when it completes.

A worker that has not ended belongs to the one owner that is left, and a new worker is made when
there is none.  This keeps the generations apart, although a worker may be suspended between its
test and its emission.
-/

namespace JaDesktop.Bridge

/-! ## The fault slot in a history -/

/-- The fault in the slot, with the supervisor of the worker that has published it. -/
def slotAfter (slot : Option (ℕ × ℕ)) : BridgeEvent → Option (ℕ × ℕ)
  | .published supervisor generation => some (supervisor, generation)
  | .taken _ _ | .cleared _ => none
  | .ready _ _ | .emitted _ _ => slot

def slotOf (history : List BridgeEvent) : Option (ℕ × ℕ) := history.foldl slotAfter none

lemma slotOf_snoc (history : List BridgeEvent) (event : BridgeEvent) :
    slotOf (history ++ [event]) = slotAfter (slotOf history) event := by
  rw [slotOf, List.foldl_append]
  rfl

/-- The fault of a runtime need not wait any more: it is taken, the actor begins to close the
runtime, or the actor completes. -/
def BridgeEvent.Settles (supervisor : ℕ) : BridgeEvent → Prop
  | .taken other _ => other = supervisor
  | .cleared (.close _ current) => current.supervisor = supervisor
  | .cleared .complete => True
  | _ => False

/-- The fault that was published last for this runtime has not been settled since. -/
def Waiting (supervisor generation : ℕ) (history : List BridgeEvent) : Prop :=
  ∃ past rest, history = past ++ .published supervisor generation :: rest ∧
    ∀ event ∈ rest, ¬ event.Settles supervisor

lemma waiting_snoc {supervisor generation : ℕ} {history : List BridgeEvent} {event : BridgeEvent} :
    Waiting supervisor generation (history ++ [event]) ↔
      event = .published supervisor generation ∨
        (Waiting supervisor generation history ∧ ¬ event.Settles supervisor) := by
  constructor
  · rintro ⟨past, rest, heq, hrest⟩
    rcases concat_eq_append_cons heq with ⟨-, hevent, -⟩ | ⟨rest', rfl, rfl⟩
    · exact Or.inl hevent
    · exact Or.inr ⟨⟨past, rest', rfl, fun e he => hrest e (List.mem_append_left _ he)⟩,
        hrest event (List.mem_append_right _ List.mem_cons_self)⟩
  · rintro (rfl | ⟨⟨past, rest, rfl, hrest⟩, hevent⟩)
    · exact ⟨history, [], rfl, by simp⟩
    · refine ⟨past, rest ++ [event], by simp, ?_⟩
      exact List.forall_mem_append.mpr ⟨hrest, List.forall_mem_singleton.mpr hevent⟩

/-- What is in the slot was published, and the slot has been left alone since. -/
lemma published_of_slotOf {history : List BridgeEvent} {supervisor generation : ℕ}
    (h : slotOf history = some (supervisor, generation)) :
    ∃ past rest, history = past ++ .published supervisor generation :: rest ∧
      ∀ event ∈ rest, ∀ slot, slotAfter slot event = slot := by
  induction history using List.reverseRecOn with
  | nil => cases h
  | append_singleton history event ih =>
    rw [slotOf_snoc] at h
    -- Either this event has filled the slot, or it has left it alone.
    have hleft : slotOf history = some (supervisor, generation) →
        (∀ slot, slotAfter slot event = slot) → ∃ past rest,
          history ++ [event] = past ++ .published supervisor generation :: rest ∧
            ∀ event ∈ rest, ∀ slot, slotAfter slot event = slot := by
      intro hslot hevent
      obtain ⟨past, rest, rfl, hrest⟩ := ih hslot
      refine ⟨past, rest ++ [event], by simp, ?_⟩
      exact List.forall_mem_append.mpr ⟨hrest, List.forall_mem_singleton.mpr hevent⟩
    cases event with
    | published n g =>
      obtain ⟨rfl, rfl⟩ := Prod.mk.inj (Option.some.inj h)
      exact ⟨history, [], rfl, by simp⟩
    | taken | cleared => cases h
    | ready | emitted => exact hleft h fun _ => rfl

/-- The slot has nothing of another runtime, and it has the fault that waits. -/
structure Owns (history : List BridgeEvent) (current : RunningRuntime) : Prop where
  slot : ∀ fault, slotOf history = some fault → fault = (current.supervisor, current.generation)
  waiting : ∀ generation, Waiting current.supervisor generation history →
    slotOf history = some (current.supervisor, generation)

namespace Owns

variable {history : List BridgeEvent} {current : RunningRuntime}

lemma pass (h : Owns history current) {event : BridgeEvent}
    (hslot : ∀ slot, slotAfter slot event = slot)
    (hevent : ∀ supervisor generation, event ≠ .published supervisor generation) :
    Owns (history ++ [event]) current where
  slot fault hfault := by
    rw [slotOf_snoc, hslot] at hfault
    exact h.slot fault hfault
  waiting generation hwaiting := by
    rw [slotOf_snoc, hslot]
    rcases waiting_snoc.mp hwaiting with heq | ⟨hpast, -⟩
    · exact absurd heq (hevent _ _)
    · exact h.waiting generation hpast

lemma publish (h : Owns history current) :
    Owns (history ++ [.published current.supervisor current.generation]) current where
  slot fault hfault := by
    rw [slotOf_snoc] at hfault
    exact (Option.some.inj hfault).symm
  waiting generation hwaiting := by
    rw [slotOf_snoc]
    rcases waiting_snoc.mp hwaiting with heq | ⟨hpast, -⟩
    · injection heq with _ hsame
      rw [hsame]
      rfl
    · -- An earlier fault that still waits has the same generation.
      have hsame := h.slot _ (h.waiting generation hpast)
      rw [hsame]
      rfl

lemma settle {event : BridgeEvent} (hslot : ∀ slot, slotAfter slot event = none)
    (hsettles : event.Settles current.supervisor) : Owns (history ++ [event]) current where
  slot fault hfault := by
    rw [slotOf_snoc, hslot] at hfault
    cases hfault
  waiting generation hwaiting := by
    rcases waiting_snoc.mp hwaiting with rfl | ⟨-, hnot⟩
    · exact hsettles.elim
    · exact absurd hsettles hnot

lemma begin (hslot : slotOf history = none)
    (hnew : ∀ generation, .published current.supervisor generation ∉ history) :
    Owns history current where
  slot fault hfault := by
    rw [hslot] at hfault
    cases hfault
  waiting generation hwaiting := by
    obtain ⟨past, rest, rfl, -⟩ := hwaiting
    exact absurd (by simp) (hnew generation)

end Owns

/-- What a history allows: no worker of an earlier runtime emits after a ready status, and the
actor takes the fault that is in the slot. -/
def BridgeEvent.Allowed (past : List BridgeEvent) : BridgeEvent → Prop
  | .emitted supervisor generation => ∀ n g, .ready n g ∈ past → n ≤ supervisor ∧ g ≤ generation
  | .taken supervisor generation => slotOf past = some (supervisor, generation)
  | _ => True

namespace RuntimeBridge

variable {s s' : RuntimeBridge} {held held' : Option (Place × Owner)}

/-! ## The ledger of generations -/

/-- The generation was drawn after every generation that has been ready. -/
def Drawn (s : RuntimeBridge) (current : RunningRuntime) : Prop :=
  current.generation ≤ s.nextGeneration ∧
    ∀ n g, .ready n g ∈ s.history → g ≤ current.generation

/-- What the actor knows about generations where it stands. -/
def PhaseSound (s : RuntimeBridge) : ActorAt → Prop
  | .loadReason generation | .exchange generation _ =>
    ∃ current, s.runtime = some current ∧ current.generation = generation
  | .clearGeneration (.spawn current) => s.Drawn current
  | .clearReason (.spawn current) | .spawning current =>
    s.Drawn current ∧ slotOf s.history = none
  | _ => True

structure Ledger (s : RuntimeBridge) (held : Option (Place × Owner)) : Prop where
  slot : s.terminalFault.generation = (slotOf s.history).elim 0 Prod.snd
  ready : ∀ n g, .ready n g ∈ s.history → n < s.created ∧ g ≤ s.nextGeneration
  bound : s.nextGeneration ≤ u64Max
  drawn : ∀ place current, held = some (place, .runtime current) → s.Drawn current
  owns : ∀ place current, held = some (place, .runtime current) → Owns s.history current
  fresh : ∀ place n, held = some (place, .pending n) → s.worker n = none
  worker : ∀ n, s.worker n ≠ none → n < s.created
  published : ∀ n g, .published n g ∈ s.history → s.worker n ≠ none
  phase : s.PhaseSound s.actor
  allowed : Justified (fun past event => event.Allowed past) s.history

lemma ledger_initial : Ledger initial none := by
  constructor
  case bound => exact Nat.one_le_iff_ne_zero.mpr (by decide)
  case allowed => exact .nil
  all_goals simp [initial, PhaseSound, slotOf]

/-- A step that adds nothing to the history. -/
structure Still (s s' : RuntimeBridge) : Prop where
  history : s'.history = s.history
  slot : s'.terminalFault.generation = s.terminalFault.generation
  next : s.nextGeneration ≤ s'.nextGeneration
  bound : s.nextGeneration ≤ u64Max → s'.nextGeneration ≤ u64Max
  phase : s'.PhaseSound s'.actor

/-- Who causes an event. -/
def EventSound (s : RuntimeBridge) (held : Option (Place × Owner)) : BridgeEvent → Prop
  | .ready n g | .emitted n g | .published n g => ∃ place, held = some (place, .runtime ⟨n, g⟩)
  | .taken n g => s.runtime = some ⟨n, g⟩ ∧ s.terminalFault.generation ≠ 0
  | .cleared next => ∀ place current, held = some (place, .runtime current) →
    (BridgeEvent.cleared next).Settles current.supervisor

/-- A step that adds an event. -/
structure Notes (s s' : RuntimeBridge) (held : Option (Place × Owner)) (event : BridgeEvent) :
    Prop where
  history : s'.history = s.history ++ [event]
  slot : s'.terminalFault.generation = (slotAfter (slotOf s.history) event).elim 0 Prod.snd
  next : s'.nextGeneration = s.nextGeneration
  sound : s.EventSound held event
  phase : s'.PhaseSound s'.actor

variable {n : ℕ} {place : Place} {current : RunningRuntime} {action : BridgeAction}

lemma Grows.worker_ne_none (h : s.Grows s') : s'.worker n ≠ none ↔ s.worker n ≠ none := by
  rw [Option.ne_none_iff_exists', Option.ne_none_iff_exists']
  constructor
  · rintro ⟨worker', hworker'⟩
    obtain ⟨worker, hworker, -⟩ := h.worker_back n worker' hworker'
    exact ⟨worker, hworker⟩
  · rintro ⟨worker, hworker⟩
    obtain ⟨worker', hworker', -⟩ := h.worker n worker hworker
    exact ⟨worker', hworker'⟩

section

variable (h : s.Ledger held)
include h

lemma Ledger.still (hgrows : s.Grows s') (hkept : Kept held held')
    (hstill : s.Still s') : s'.Ledger held' where
  slot := by rw [hstill.slot, hstill.history, h.slot]
  ready n g hmem := by
    rw [hstill.history] at hmem
    obtain ⟨hlt, hle⟩ := h.ready n g hmem
    exact ⟨hgrows.created.symm ▸ hlt, hle.trans hstill.next⟩
  bound := hstill.bound h.bound
  drawn place' current hheld' := by
    obtain ⟨place, hheld⟩ := hkept place' _ hheld'
    obtain ⟨hle, hready⟩ := h.drawn place current hheld
    refine ⟨hle.trans hstill.next, ?_⟩
    rw [hstill.history]
    exact hready
  owns place' current hheld' := by
    obtain ⟨place, hheld⟩ := hkept place' _ hheld'
    rw [hstill.history]
    exact h.owns place current hheld
  fresh place' n hheld' := by
    obtain ⟨place, hheld⟩ := hkept place' _ hheld'
    have hnone := h.fresh place n hheld
    by_contra hsome
    exact hgrows.worker_ne_none.mp hsome hnone
  worker n hsome := by
    rw [hgrows.created]
    exact h.worker n (hgrows.worker_ne_none.mp hsome)
  published n g hmem := by
    rw [hstill.history] at hmem
    exact hgrows.worker_ne_none.mpr (h.published n g hmem)
  phase := hstill.phase
  allowed := by
    rw [hstill.history]
    exact h.allowed

lemma Ledger.ready_le (howned : s.Owned held)
    (hheld : held = some (place, .runtime current)) {g : ℕ} (hmem : .ready n g ∈ s.history) :
    n ≤ current.supervisor ∧ g ≤ current.generation := by
  have hlt := (h.ready n g hmem).1
  rw [← howned.newest place _ hheld] at hlt
  exact ⟨Nat.lt_succ_iff.mp hlt, (h.drawn place current hheld).2 n g hmem⟩

lemma Ledger.slotOf_of_taken (hheld : held = some (place, .runtime current))
    (hslot : s.terminalFault.generation ≠ 0) :
    slotOf s.history = some (current.supervisor, current.generation) := by
  cases hfault : slotOf s.history with
  | none =>
    rw [h.slot, hfault] at hslot
    exact absurd rfl hslot
  | some fault => rw [(h.owns place current hheld).slot fault hfault]

/-- What the slot is for a runtime after an event that somebody has caused. -/
lemma Ledger.owns_note (howned : s.Owned held) {event : BridgeEvent}
    (hsound : s.EventSound held event) (hheld : held = some (place, .runtime current)) :
    Owns (s.history ++ [event]) current := by
  have howns := h.owns place current hheld
  cases event with
  | ready | emitted => exact howns.pass (fun _ => rfl) (by simp)
  | published n g =>
    obtain ⟨other, hother⟩ := hsound
    rw [hheld] at hother
    obtain ⟨-, hsame⟩ := Prod.mk.inj (Option.some.inj hother)
    cases hsame
    exact howns.publish
  | taken n g =>
    have hother := (howned.located .runtime (.runtime ⟨n, g⟩)).mp
      (by rw [holder, hsound.1]; rfl)
    rw [hheld] at hother
    obtain ⟨-, hsame⟩ := Prod.mk.inj (Option.some.inj hother)
    cases hsame
    exact .settle (fun _ => rfl) rfl
  | cleared next => exact .settle (fun _ => rfl) (hsound place current hheld)

lemma Ledger.note (howned : s.Owned held) (hgrows : s.Grows s')
    (hkept : Kept held held') {event : BridgeEvent} (hnotes : s.Notes s' held event) :
    s'.Ledger held' := by
  have hmem : ∀ e, e ∈ s'.history ↔ e ∈ s.history ∨ e = event := by
    intro e
    rw [hnotes.history, List.mem_append, List.mem_singleton]
  have hsound := hnotes.sound
  constructor
  case slot => rw [hnotes.slot, hnotes.history, slotOf_snoc]
  case ready =>
    intro n g hready
    rw [hgrows.created, hnotes.next]
    rcases (hmem _).mp hready with hpast | rfl
    · exact h.ready n g hpast
    · obtain ⟨place, hheld⟩ := hsound
      have hnewest := howned.newest place _ hheld
      exact ⟨hnewest ▸ Nat.lt_succ_self _, (h.drawn place _ hheld).1⟩
  case bound => exact hnotes.next ▸ h.bound
  case drawn =>
    intro place' current hheld'
    obtain ⟨place, hheld⟩ := hkept place' _ hheld'
    obtain ⟨hle, hready⟩ := h.drawn place current hheld
    refine ⟨hnotes.next ▸ hle, ?_⟩
    intro n g hmem'
    rcases (hmem _).mp hmem' with hpast | rfl
    · exact hready n g hpast
    · obtain ⟨other, hother⟩ := hsound
      rw [hheld] at hother
      obtain ⟨-, hsame⟩ := Prod.mk.inj (Option.some.inj hother)
      cases hsame
      exact le_rfl
  case owns =>
    intro place' current hheld'
    obtain ⟨place, hheld⟩ := hkept place' _ hheld'
    rw [hnotes.history]
    exact h.owns_note howned hsound hheld
  case fresh =>
    intro place' n hheld'
    obtain ⟨place, hheld⟩ := hkept place' _ hheld'
    have hnone := h.fresh place n hheld
    by_contra hsome
    exact hgrows.worker_ne_none.mp hsome hnone
  case worker =>
    intro n hsome
    rw [hgrows.created]
    exact h.worker n (hgrows.worker_ne_none.mp hsome)
  case published =>
    intro n g hpublished
    rw [hgrows.worker_ne_none]
    rcases (hmem _).mp hpublished with hpast | rfl
    · exact h.published n g hpast
    · obtain ⟨place, hheld⟩ := hsound
      obtain ⟨-, worker, hworker, -⟩ := howned.spawned place _ hheld
      rw [show s.worker n = some worker from hworker]
      simp
  case phase => exact hnotes.phase
  case allowed =>
    rw [hnotes.history]
    refine h.allowed.snoc ?_
    cases event with
    | emitted n g =>
      obtain ⟨place, hheld⟩ := hsound
      exact fun m g' hready => h.ready_le howned hheld hready
    | taken n g =>
      exact h.slotOf_of_taken ((howned.located .runtime (.runtime ⟨n, g⟩)).mp
        (by rw [holder, hsound.1]; rfl)) hsound.2
    | ready | published | cleared => trivial

end

/-! ## The workers and the callers -/

lemma PhaseSound.of_eq {place : ActorAt} (h : s.PhaseSound place) (hruntime : s'.runtime = s.runtime)
    (hhistory : s'.history = s.history) (hnext : s'.nextGeneration = s.nextGeneration) :
    s'.PhaseSound place := by
  have hdrawn : ∀ current, s.Drawn current → s'.Drawn current := by
    intro current hdrawn
    unfold Drawn
    rw [hnext, hhistory]
    exact hdrawn
  cases place with
  | loadReason | exchange =>
    unfold PhaseSound
    rw [hruntime]
    exact h
  | spawning current => exact ⟨hdrawn current h.1, by rw [hhistory]; exact h.2⟩
  | clearGeneration next =>
    cases next with
    | spawn current => exact hdrawn current h
    | close | stopped | complete => trivial
  | clearReason next =>
    cases next with
    | spawn current => exact ⟨hdrawn current h.1, by rw [hhistory]; exact h.2⟩
    | close | stopped | complete => trivial
  | _ => trivial

lemma Ledger.still_of_eq (h : s.Ledger held) (hhistory : s'.history = s.history)
    (hslot : s'.terminalFault.generation = s.terminalFault.generation)
    (hnext : s'.nextGeneration = s.nextGeneration) (hruntime : s'.runtime = s.runtime)
    (hactor : s'.actor = s.actor) : s.Still s' where
  history := hhistory
  slot := hslot
  next := Nat.le_of_eq hnext.symm
  bound := hnext.symm ▸ id
  phase := by
    rw [hactor]
    exact h.phase.of_eq hruntime hhistory hnext

lemma Ledger.still_testCurrent (h : s.Ledger held) (n : ℕ) (worker : Worker) (next : WorkerAt) :
    s.Still (s.testCurrent n worker next) := by
  unfold testCurrent
  split_ifs <;> exact h.still_of_eq rfl rfl rfl rfl rfl

lemma Owned.held_of_worker (howned : s.Owned held) {worker : Worker}
    (hworker : s.worker n = some worker) (hplace : worker.place ≠ .ended) :
    ∃ place, held = some (place, .runtime ⟨n, worker.generation⟩) := by
  rcases howned.worker n worker hworker with hended | ⟨place, current, hheld, rfl⟩
  · exact absurd hended hplace
  · obtain ⟨-, other, hother, hgeneration⟩ := howned.spawned place current hheld
    obtain rfl := Option.some.inj (hworker.symm.trans hother)
    rw [hgeneration]
    exact ⟨place, hheld⟩

/-- No worker is left to emit or to publish while the actor is about to make one. -/
lemma Owned.phase_of_held (howned : s.Owned held) (h : s.Ledger held)
    (hheld : held = some (place, .runtime current)) (hruntime : s'.runtime = s.runtime)
    (hactor : s'.actor = s.actor) :
    s'.PhaseSound s'.actor := by
  have hother : ∀ n, s.actor.owner ≠ some (.pending n) := by
    intro n howner
    have hsame := (howned.located .actor _).mp howner
    rw [hheld] at hsame
    obtain ⟨-, howner'⟩ := Prod.mk.inj (Option.some.inj hsame)
    cases howner'
  have hphase := h.phase
  rw [hactor]
  cases hplace : s.actor with
  | loadReason | exchange =>
    rw [hplace] at hphase
    unfold PhaseSound
    rw [hruntime]
    exact hphase
  | spawning other => exact absurd (by rw [hplace]; rfl) (hother other.supervisor)
  | clearGeneration next =>
    cases next with
    | spawn other => exact absurd (by rw [hplace]; rfl) (hother other.supervisor)
    | close | stopped | complete => trivial
  | clearReason next =>
    cases next with
    | spawn other => exact absurd (by rw [hplace]; rfl) (hother other.supervisor)
    | close | stopped | complete => trivial
  | _ => trivial

lemma Ledger.notes_workerStep (h : s.Ledger held) (howned : s.Owned held) (n : ℕ)
    (choice : WorkerChoice) :
    s.Still (s.workerStep n choice) ∨ ∃ event, s.Notes (s.workerStep n choice) held event := by
  unfold RuntimeBridge.workerStep
  split
  · exact Or.inl (h.still_of_eq rfl rfl rfl rfl rfl)
  · next worker hworker =>
    have hstill : ∀ place : WorkerAt,
        s.Still (s.setWorker n { worker with place := place }) :=
      fun place => h.still_of_eq rfl rfl rfl rfl rfl
    dsimp only
    cases hplace : worker.place with
    | top | received => exact Or.inl (h.still_testCurrent n worker _)
    | polling | emitted => cases choice <;> exact Or.inl (hstill _)
    | handling =>
      cases choice with
      | proceed => exact Or.inl (hstill .top)
      | fail reason => exact Or.inl (hstill (.publishing reason))
      | emit ok =>
        obtain ⟨place, hheld⟩ := howned.held_of_worker hworker (by simp [hplace])
        exact Or.inr ⟨.emitted n worker.generation, rfl, h.slot, rfl, ⟨place, hheld⟩,
          howned.phase_of_held h hheld rfl rfl⟩
    | publishing reason => exact Or.inl (h.still_of_eq rfl rfl rfl rfl rfl)
    | swapping =>
      obtain ⟨place, hheld⟩ := howned.held_of_worker hworker (by simp [hplace])
      exact Or.inr ⟨.published n worker.generation, rfl, rfl, rfl, ⟨place, hheld⟩,
        howned.phase_of_held h hheld rfl rfl⟩
    | leaving => exact Or.inl (h.still_of_eq rfl rfl rfl rfl rfl)
    | withdrawn => exact Or.inl (hstill .ended)
    | ended => exact Or.inl (h.still_of_eq rfl rfl rfl rfl rfl)

lemma still_clean (s : RuntimeBridge) (answer : Bool) (cleanup : Cleanup) :
    (s.clean answer cleanup).1.history = s.history ∧
      (s.clean answer cleanup).1.terminalFault = s.terminalFault ∧
      (s.clean answer cleanup).1.nextGeneration = s.nextGeneration := by
  unfold clean
  cases cleanup with
  | process | components =>
    dsimp only
    split_ifs <;> exact ⟨rfl, rfl, rfl⟩
  | requestStop =>
    dsimp only
    split <;> exact ⟨rfl, rfl, rfl⟩
  | finish =>
    dsimp only
    split_ifs <;> exact ⟨rfl, rfl, rfl⟩
  | detach | concluded => exact ⟨rfl, rfl, rfl⟩

lemma Ledger.still_callerStep (h : s.Ledger held) (i : ℕ) (answer : Bool) :
    s.Still (s.callerStep i answer) := by
  unfold callerStep
  cases s.caller i with
  | idle | restoring | settled | promoting => exact h.still_of_eq rfl rfl rfl rfl rfl
  | waiting | answered =>
    dsimp only
    split_ifs <;> exact h.still_of_eq rfl rfl rfl rfl rfl
  | taking =>
    dsimp only
    split <;> exact h.still_of_eq rfl rfl rfl rfl rfl
  | cleaning explicitRetry cleanup =>
    obtain ⟨hhistory, hfault, hnext⟩ := still_clean s answer cleanup
    have hcleans := cleans_clean s answer cleanup
    have hclean : s.Still ((s.clean answer cleanup).1.setCaller i
        (.cleaning explicitRetry (s.clean answer cleanup).2)) :=
      h.still_of_eq hhistory (congrArg TerminalFault.generation hfault) hnext hcleans.runtime
        hcleans.actor
    cases cleanup with
    | concluded owner ok =>
      dsimp only
      split_ifs <;> exact h.still_of_eq rfl rfl rfl rfl rfl
    | process | requestStop | components | finish | detach => exact hclean

/-! ## The actor -/

lemma still_of_phase (hhistory : s'.history = s.history)
    (hslot : s'.terminalFault.generation = s.terminalFault.generation)
    (hnext : s'.nextGeneration = s.nextGeneration) (hphase : s'.PhaseSound s'.actor) :
    s.Still s' where
  history := hhistory
  slot := hslot
  next := Nat.le_of_eq hnext.symm
  bound := hnext.symm ▸ id
  phase := hphase

lemma phaseSound_cleaned (s : RuntimeBridge) (owner : Owner) (purpose : Purpose) :
    s.PhaseSound (purpose.cleaned owner) := by
  cases purpose <;> cases owner <;> trivial

lemma phaseSound_failed (s : RuntimeBridge) (purpose : Purpose) : s.PhaseSound purpose.failed := by
  cases purpose <;> trivial

lemma still_settle (s : RuntimeBridge) (purpose : Purpose) (owner : Owner) (ok expired : Bool) :
    s.Still (s.settle purpose owner ok expired) := by
  unfold RuntimeBridge.settle
  dsimp only
  split_ifs
  · exact still_of_phase rfl rfl rfl (phaseSound_cleaned _ owner purpose)
  · cases owner <;> exact still_of_phase rfl rfl rfl (phaseSound_failed _ purpose)

lemma still_retain (s : RuntimeBridge) : s.Still s.retain := by
  unfold RuntimeBridge.retain
  split_ifs
  · exact still_of_phase rfl rfl rfl trivial
  · cases s.runtime <;> cases hpending : s.pendingCleanup <;> simp only [hpending] <;>
      exact still_of_phase rfl rfl rfl trivial

lemma Ledger.still_draw (h : s.Ledger held) (supervisor : ℕ) :
    s.Still { s with
      nextGeneration := min (s.nextGeneration + 1) u64Max
      currentGeneration := s.nextGeneration
      actor := .clearGeneration (.spawn ⟨supervisor, s.nextGeneration⟩) } := by
  have hle : s.nextGeneration ≤ min (s.nextGeneration + 1) u64Max :=
    Nat.le_min.mpr ⟨Nat.le_succ _, h.bound⟩
  exact ⟨rfl, rfl, hle, fun _ => Nat.min_le_right _ _, hle, fun n g hmem => (h.ready n g hmem).2⟩

lemma Owned.cleared_sound (howned : s.Owned held) {next : AfterClear}
    (hactor : s.actor = .clearGeneration next) : s.EventSound held (.cleared next) := by
  intro place current hheld
  have hsound := howned.actor
  rw [hactor] at hsound
  cases next with
  | spawn other =>
    -- The owner is no runtime yet.
    have hsame := (howned.located .actor (.pending other.supervisor)).mp
      (by rw [holder, hactor]; rfl)
    rw [hheld] at hsame
    cases hsame
  | close purpose other =>
    have hsame := (howned.located .actor (.runtime other)).mp
      (by rw [holder, hactor]; rfl)
    rw [hheld] at hsame
    cases hsame
    rfl
  | stopped errand =>
    rw [hheld] at hsound
    cases hsound
  | complete => trivial

lemma Ledger.notes_actorStep (h : s.Ledger held) (howned : s.Owned held) (answer : Bool)
    (hbegins : ¬ s.Begins) :
    s.Still (s.actorStep answer) ∨ ∃ event, s.Notes (s.actorStep answer) held event := by
  have hphase := h.phase
  unfold actorStep
  cases hplace : s.actor with
  | checked => exact absurd (Or.inl hplace) hbegins
  | spawning current => exact absurd (Or.inr ⟨current, hplace⟩) hbegins
  | loop | exitCheck | ending =>
    left
    dsimp only
    split_ifs <;> exact still_of_phase rfl rfl rfl trivial
  | draining =>
    left
    dsimp only
    split
    · exact still_of_phase rfl rfl rfl trivial
    · next current hruntime =>
      split_ifs
      · exact still_of_phase rfl rfl rfl trivial
      · exact still_of_phase rfl rfl rfl ⟨current, hruntime, rfl⟩
  | loadReason generation =>
    left
    rw [hplace] at hphase
    exact still_of_phase rfl rfl rfl hphase
  | exchange generation reason =>
    dsimp only
    rw [hplace] at hphase
    obtain ⟨current, hruntime, rfl⟩ := hphase
    split_ifs with hslot
    · simp only [hruntime]
      -- The fault is that of the runtime, so its worker has published it.
      have hheld := (howned.located .runtime (.runtime current)).mp
        (by rw [holder, hruntime]; rfl)
      have hpos := (howned.spawned .runtime current hheld).1
      refine Or.inr ⟨.taken current.supervisor current.generation, rfl, rfl, rfl,
        ⟨hruntime, ?_⟩, trivial⟩
      rw [hslot]
      exact Nat.ne_of_gt hpos
    · exact Or.inl (still_of_phase rfl rfl rfl trivial)
  | terminating =>
    left
    dsimp only
    split <;> exact still_of_phase rfl rfl rfl trivial
  | receiving | ended => exact Or.inl (h.still_of_eq rfl rfl rfl rfl rfl)
  | starting supervisor =>
    left
    dsimp only
    split_ifs
    · exact h.still_draw supervisor
    · exact still_of_phase rfl rfl rfl trivial
  | clearGeneration next =>
    right
    rw [hplace] at hphase
    refine ⟨.cleared next, rfl, rfl, rfl, howned.cleared_sound hplace, ?_⟩
    cases next with
    | spawn current =>
      refine ⟨⟨hphase.1, ?_⟩, slotOf_snoc ..⟩
      intro n g hmem
      rcases List.mem_append.mp hmem with hpast | hlast
      · exact hphase.2 n g hpast
      · simp at hlast
    | close | stopped | complete => trivial
  | clearReason next =>
    left
    rw [hplace] at hphase
    cases next with
    | spawn current => exact still_of_phase rfl rfl rfl hphase
    | close | stopped | complete => exact still_of_phase rfl rfl rfl trivial
  | projecting current =>
    right
    have hheld := (howned.located .actor (.runtime current)).mp
      (by rw [holder, hplace]; rfl)
    dsimp only
    split_ifs
    · exact ⟨.ready current.supervisor current.generation, rfl, h.slot, rfl, ⟨_, hheld⟩, trivial⟩
    · exact ⟨.ready current.supervisor current.generation, rfl, h.slot, rfl, ⟨_, hheld⟩, trivial⟩
  | stop errand =>
    left
    dsimp only
    unfold RuntimeBridge.stopRuntime
    split_ifs
    · exact still_of_phase rfl rfl rfl trivial
    · split <;> exact still_of_phase rfl rfl rfl trivial
  | stopCurrent errand =>
    left
    dsimp only
    unfold RuntimeBridge.stopCurrent
    split
    · split_ifs <;> exact still_of_phase rfl rfl rfl trivial
    · exact still_of_phase rfl rfl rfl trivial
  | stopped | leaving | sealed | completing => exact Or.inl (still_of_phase rfl rfl rfl trivial)
  | cleaning purpose cleanup =>
    left
    obtain ⟨hhistory, hfault, hnext⟩ := still_clean s answer cleanup
    have hclean : s.Still { (s.clean answer cleanup).1 with
        actor := .cleaning purpose (s.clean answer cleanup).2 } :=
      still_of_phase hhistory (congrArg TerminalFault.generation hfault) hnext trivial
    cases cleanup with
    | concluded owner ok => exact still_settle s purpose owner ok answer
    | process | requestStop | components | finish | detach => exact hclean
  | returned errand ok =>
    left
    dsimp only
    unfold RuntimeBridge.returnFrom
    cases errand with
    | request =>
      dsimp only
      split_ifs <;> exact still_of_phase rfl rfl rfl trivial
    | command | exit | last => exact still_of_phase rfl rfl rfl trivial
  | retaining =>
    left
    exact still_retain s

lemma Ledger.still_commandStep (h : s.Ledger held) (command : BridgeCommand) :
    s.Still (s.commandStep command) := by
  unfold commandStep
  split_ifs with hactor
  · cases command with
    | start =>
      unfold RuntimeBridge.startRuntime
      split_ifs <;> exact still_of_phase rfl rfl rfl trivial
    | stop | other | disconnected => exact still_of_phase rfl rfl rfl trivial
  · exact h.still_of_eq rfl rfl rfl rfl rfl

lemma Ledger.still_callStep (h : s.Ledger held) (i : ℕ) (allowRetry : Bool) :
    s.Still (s.callStep i allowRetry) := by
  unfold callStep
  split_ifs <;> exact h.still_of_eq rfl rfl rfl rfl rfl

/-! ## Beginnings -/

lemma Ledger.create (h : s.Ledger held) (howned' : s'.Owned held')
    (heq : s' = { s with created := s.created + 1, actor := .starting s.created }) :
    s'.Ledger held' := by
  have hheld' : held' = some (.actor, .pending s.created) := by
    subst heq
    exact (howned'.located .actor _).mp rfl
  subst hheld' heq
  constructor
  case slot => exact h.slot
  case ready =>
    intro n g hmem
    obtain ⟨hlt, hle⟩ := h.ready n g hmem
    exact ⟨Nat.lt_succ_of_lt hlt, hle⟩
  case bound => exact h.bound
  case drawn => simp
  case owns => simp
  case fresh =>
    intro place n hheld
    obtain ⟨-, hsame⟩ := Prod.mk.inj (Option.some.inj hheld)
    cases hsame
    by_contra hsome
    exact Nat.lt_irrefl _ (h.worker s.created hsome)
  case worker => exact fun n hsome => Nat.lt_succ_of_lt (h.worker n hsome)
  case published => exact h.published
  case phase => trivial
  case allowed => exact h.allowed

lemma Ledger.spawn (h : s.Ledger held) (howned : s.Owned held) (howned' : s'.Owned held')
    (hactor : s.actor = .spawning current)
    (heq : s' = { s.setWorker current.supervisor ⟨current.generation, false, .top⟩ with
      actor := .projecting current }) : s'.Ledger held' := by
  have hheld : held = some (.actor, .pending current.supervisor) :=
    howned.located.eq (by rw [holder, hactor]; rfl)
  have hheld' : held' = some (.actor, .runtime current) := by
    subst heq
    exact (howned'.located .actor _).mp rfl
  have hphase := h.phase
  rw [hactor] at hphase
  obtain ⟨hdrawn, hslot⟩ := hphase
  have hworker : ∀ n, s'.worker n =
      if n = current.supervisor then some ⟨current.generation, false, .top⟩ else s.worker n := by
    subst heq
    exact fun n => worker_setWorker ..
  subst hheld hheld'
  have hsome : ∀ n, s'.worker n ≠ none ↔ n = current.supervisor ∨ s.worker n ≠ none := by
    intro n
    rw [hworker]
    split_ifs with hsame
    · simp [hsame]
    · simp [hsame]
  subst heq
  constructor
  case slot => exact h.slot
  case ready => exact h.ready
  case bound => exact h.bound
  case drawn =>
    intro place other hheld
    obtain ⟨-, hsame⟩ := Prod.mk.inj (Option.some.inj hheld)
    cases hsame
    exact hdrawn
  case owns =>
    intro place other hheld
    obtain ⟨-, hsame⟩ := Prod.mk.inj (Option.some.inj hheld)
    cases hsame
    refine .begin hslot fun g hmem => ?_
    exact h.published current.supervisor g hmem (h.fresh .actor current.supervisor rfl)
  case fresh => simp
  case worker =>
    intro n hn
    rcases (hsome n).mp hn with rfl | hold
    · have hnewest := howned.newest .actor (.pending current.supervisor) rfl
      exact hnewest ▸ Nat.lt_succ_self _
    · exact h.worker n hold
  case published => exact fun n g hmem => (hsome n).mpr (Or.inr (h.published n g hmem))
  case phase => trivial
  case allowed => exact h.allowed

/-- The step may make a supervisor or a worker. -/
def Makes (s : RuntimeBridge) (action : BridgeAction) : Prop :=
  s.Begins ∧ ∃ answer, action = .actor answer

lemma Ledger.makes (h : s.Ledger held) (howned : s.Owned held) (hmakes : s.Makes action) :
    (s.after action).history = s.history ∧
      ∃ held', (s.after action).Owned held' ∧ (s.after action).Ledger held' := by
  obtain ⟨hbegins, answer, rfl⟩ := hmakes
  obtain ⟨held', howned', -⟩ := howned.actorStep answer
  change (s.actorStep answer).history = s.history ∧
    ∃ held', (s.actorStep answer).Owned held' ∧ (s.actorStep answer).Ledger held'
  -- A failure goes on with what the actor holds.
  have hfailed : (s.actorStep answer).history = s.history →
      s.Grows (s.actorStep answer) → s.Still (s.actorStep answer) →
      (s.actorStep answer).Owned held → (s.actorStep answer).history = s.history ∧
        ∃ held', (s.actorStep answer).Owned held' ∧ (s.actorStep answer).Ledger held' :=
    fun hhistory hgrows hstill howned' =>
      ⟨hhistory, held, howned', h.still hgrows (.refl _) hstill⟩
  rcases hbegins with hactor | ⟨current, hactor⟩
  · cases answer with
    | true =>
      have heq : s.actorStep true =
          { s with created := s.created + 1, actor := .starting s.created } := by
        simp only [actorStep, hactor, if_true]
      exact ⟨by rw [heq], held', howned', h.create howned' heq⟩
    | false =>
      have heq : s.actorStep false = { s with actor := .loop } := by
        simp [actorStep, hactor]
      rw [heq] at hfailed ⊢
      refine hfailed rfl (.of_eq rfl id rfl rfl) (still_of_phase rfl rfl rfl trivial) ?_
      exact howned.goto hactor (by simp) (.of_eq id rfl) rfl trivial
  · cases answer with
    | true =>
      have heq : s.actorStep true =
          { s.setWorker current.supervisor ⟨current.generation, false, .top⟩ with
            actor := .projecting current } := by
        simp only [actorStep, hactor, if_true]
      exact ⟨by rw [heq]; rfl, held', howned', h.spawn howned howned' hactor heq⟩
    | false =>
      have heq : s.actorStep false =
          { s with
            currentGeneration := 0
            actor := .cleaning .refused (.process current.supervisor) } := by
        simp [actorStep, hactor]
      rw [heq] at hfailed ⊢
      refine hfailed rfl (.of_eq rfl id rfl rfl) (still_of_phase rfl rfl rfl trivial) ?_
      exact howned.goto hactor (by simp) (.of_eq id rfl) rfl trivial

/-- What any other step adds to the history. -/
theorem Ledger.notes_after (h : s.Ledger held) (howned : s.Owned held) (hmakes : ¬ s.Makes action) :
    s.Grows (s.after action) ∧
      (s.Still (s.after action) ∨ ∃ event, s.Notes (s.after action) held event) ∧
      ∃ held', (s.after action).Owned held' ∧ Kept held held' := by
  cases action with
  | command command =>
    refine ⟨?_, Or.inl (h.still_commandStep command), held, howned.commandStep command, .refl _⟩
    exact grows_commandStep s command
  | actor answer =>
    have hbegins : ¬ s.Begins := fun hbegins => hmakes ⟨hbegins, answer, rfl⟩
    obtain ⟨held', howned', hkept⟩ := howned.actorStep answer
    exact ⟨grows_actorStep answer hbegins, h.notes_actorStep howned answer hbegins, held', howned',
      hkept.resolve_left hbegins⟩
  | worker n choice =>
    exact ⟨grows_workerStep s n choice, h.notes_workerStep howned n choice, held,
      howned.workerStep n choice, .refl _⟩
  | call i allowRetry =>
    exact ⟨grows_callStep s i allowRetry, Or.inl (h.still_callStep i allowRetry), held,
      howned.callStep i allowRetry, .refl _⟩
  | caller i answer =>
    exact ⟨grows_callerStep s i answer, Or.inl (h.still_callerStep i answer),
      howned.callerStep i answer⟩

/-- **Every step keeps the ledger.** -/
theorem Ledger.after (h : s.Ledger held) (howned : s.Owned held) (action : BridgeAction) :
    ∃ held', (s.after action).Owned held' ∧ (s.after action).Ledger held' := by
  by_cases hmakes : s.Makes action
  · exact (h.makes howned hmakes).2
  · obtain ⟨hgrows, hnotes, held', howned', hkept⟩ := h.notes_after howned hmakes
    refine ⟨held', howned', ?_⟩
    rcases hnotes with hstill | ⟨event, hnotes⟩
    · exact h.still hgrows hkept hstill
    · exact h.note howned hgrows hkept hnotes

theorem ledger_reached (actions : List BridgeAction) :
    ∃ held, (reached actions).Owned held ∧ (reached actions).Ledger held := by
  refine List.foldlRecOn actions _
    (motive := fun s : RuntimeBridge => ∃ held, s.Owned held ∧ s.Ledger held)
    ⟨none, owned_initial, ledger_initial⟩ ?_
  rintro s ⟨held, howned, h⟩ action -
  exact h.after howned action

lemma Ledger.runtime_of_taken (h : s.Ledger held) (howned : s.Owned held) {g : ℕ}
    (htaken : (s.after action).history = s.history ++ [.taken n g]) :
    s.runtime = some ⟨n, g⟩ := by
  have hsame : (s.after action).history ≠ s.history := by
    rw [htaken]
    simp
  by_cases hmakes : s.Makes action
  · exact absurd (h.makes howned hmakes).1 hsame
  · obtain ⟨-, hstill | ⟨event, hnotes⟩, -⟩ := h.notes_after howned hmakes
    · exact absurd hstill.history hsame
    · have hevent := hnotes.history.symm.trans htaken
      obtain rfl := List.singleton_inj.mp (List.append_cancel_left hevent)
      exact hnotes.sound.1

/-! ## What the window sees -/

/-- What a run guarantees about generations. -/
structure GenerationsApart (actions : List BridgeAction) : Prop where
  /-- After a ready status no worker of an earlier runtime, or of an earlier generation, emits. -/
  emitted : ∀ past n g rest m g', (reached actions).history = past ++ .ready n g :: rest →
    .emitted m g' ∈ rest → n ≤ m ∧ g ≤ g'
  /-- A fault is taken for the runtime whose worker has published it, ... -/
  taken_for : ∀ action n g,
    (reached (actions ++ [action])).history = (reached actions).history ++ [.taken n g] →
      (reached actions).runtime = some ⟨n, g⟩
  /-- ... and it is the one that was published last. -/
  taken : ∀ past n g rest, (reached actions).history = past ++ .taken n g :: rest →
    ∃ before between, past = before ++ .published n g :: between ∧
      ∀ event ∈ between, ∀ slot, slotAfter slot event = slot
  /-- A fault stays in the slot as long as its runtime is there, until it is taken, the actor
  begins to close the runtime, or the actor completes. -/
  waits : ∀ n g place, Waiting n g (reached actions).history →
    (reached actions).holder place = some (.runtime ⟨n, g⟩) →
      (reached actions).terminalFault.generation = g

/-- **Generations do not mix**, whatever the threads do. -/
theorem generations_apart (actions : List BridgeAction) : GenerationsApart actions := by
  obtain ⟨held, howned, h⟩ := ledger_reached actions
  constructor
  case emitted =>
    intro past n g rest m g' heq hmem
    obtain ⟨between, later, rfl⟩ := List.append_of_mem hmem
    refine h.allowed (past ++ .ready n g :: between) (.emitted m g') later ?_ n g (by simp)
    rw [heq]
    simp
  case taken_for =>
    intro action n g htaken
    rw [reached_append] at htaken
    exact h.runtime_of_taken howned htaken
  case taken =>
    intro past n g rest heq
    exact published_of_slotOf (h.allowed past (.taken n g) rest heq)
  case waits =>
    intro n g place hwaiting hholder
    have howns := h.owns place ⟨n, g⟩ (howned.located.eq hholder)
    rw [h.slot, howns.waiting g hwaiting]
    rfl

/-- A runtime starts, its worker publishes a fault while the actor waits for a command, and then
comes a stop, which fails. -/
def failedStop : List BridgeAction :=
  List.replicate 3 (.actor false) ++ [.command .start] ++ List.replicate 9 (.actor true) ++
    List.replicate 3 (.worker 0 .proceed) ++ [.worker 0 (.fail .sidecar)] ++
    List.replicate 4 (.worker 0 .proceed) ++ [.command .stop] ++ List.replicate 8 (.actor false)

/-- The runtime is still there, and its fault has been cleared without being taken. -/
theorem fault_cleared_by_failed_stop :
    (reached failedStop).runtime = some ⟨0, 1⟩ ∧
      .published 0 1 ∈ (reached failedStop).history ∧
      (∀ n g, .taken n g ∉ (reached failedStop).history) ∧
      (reached failedStop).terminalFault.generation = 0 := by
  have hhistory : (reached failedStop).history =
      [.cleared (.spawn ⟨0, 1⟩), .ready 0 1, .published 0 1,
        .cleared (.close (.stop .command) ⟨0, 1⟩)] := by decide
  rw [hhistory]
  exact ⟨by decide, by simp, by simp, by decide⟩

end RuntimeBridge

end JaDesktop.Bridge
