import Mathlib.Algebra.Order.BigOperators.Group.Finset
import JaDesktop.Persistence.SingleWriter

/-!
# What the single writer promises over every interleaving

The ledger of a run is a run of the general `Ledger`, so what its counters add up to and how often
an admission is given back are known from there.  On top of this stand four invariants of the
writer: each call is where its admission says (`Placed`), only the owner of the admission monitor
lets anything in (`Admitting`), every admission that is still held has a thread that will release
it (`Owned`), and the executor runs the tasks in the order in which it accepted them (`Served`).
-/

namespace JaDesktop.Persistence.Writer

open SingleWriter

variable {b : Budget} {w w' : SingleWriter} {e : Event} {x y : ℕ} {trace : List Event}

/-! ## The ledger of a run -/

def Event.movement : Event → Option (Movement ℕ Actor)
  | .moved movement => some movement
  | _ => none

namespace SingleWriter

lemma Step.ledger (h : Step b w e w') :
    (e.movement = none ∧ w'.ledger = w.ledger) ∨
      ∃ m, e.movement = some m ∧ w.ledger.Step b.estimatedBytes m w'.ledger := by
  cases h with
  | caller h =>
    cases h with
    | count hpc h => exact .inr ⟨_, rfl, h⟩
    | weigh hpc h => exact .inr ⟨_, rfl, h⟩
    | accept => exact .inl ⟨rfl, enqueue_ledger _ _⟩
    | _ => exact .inl ⟨rfl, rfl⟩
  | writer h => cases h <;> exact .inl ⟨rfl, rfl⟩
  | closer h => cases h <;> exact .inl ⟨rfl, rfl⟩
  | release hin h => exact .inr ⟨_, rfl, h⟩

/-- The ledger goes through a run of its own. -/
theorem ledger_run (h : Run (Step b) initial trace w) :
    Run (Ledger.Step b.estimatedBytes) .empty (trace.filterMap Event.movement) w.ledger := by
  induction h with
  | nil => exact .nil
  | @snoc trace w e w' _ hstep ih =>
    rw [List.filterMap_append]
    rcases hstep.ledger with ⟨hnone, heq⟩ | ⟨m, hsome, hm⟩
    · simpa [hnone, heq] using ih
    · simpa [hsome] using ih.snoc hm

end SingleWriter

/-! ## Where a call stands and where its admission stands -/

/-- The admission is entered in both counters, or was. -/
def Beyond (standing : Standing Actor) : Prop := standing ≠ .absent ∧ standing ≠ .counted

/-- Where the admission of a call may stand. -/
def Caller.Fits : Caller → Standing Actor → Prop
  | start, s | entering, s | waiting, s | inside, s | seenOpen, s | countFree, s | bytesFree, s
  | full, s | done (.refused _), s => s = .absent
  | counted, s => s = .counted
  | admitted, s | submitted, s | releasing _, s | done (.rejected _), s | done (.abandoned _), s =>
    Beyond s
  | done .value, s | done .failed, s => s ≠ .counted

variable {c : Caller} {l l' : Ledger ℕ Actor}

/-- A movement past the entry of an admission concerns no call that has none. -/
lemma Caller.Fits.beyond {s s' : Standing Actor} (h : c.Fits s) (hs : Beyond s) (hs' : Beyond s') :
    c.Fits s' := by
  obtain ⟨habsent, hcounted⟩ := hs
  cases c with
  | done outcome =>
    cases outcome with
    | refused => exact absurd h habsent
    | value | failed => exact hs'.2
    | _ => exact hs'
  | counted => exact absurd h hcounted
  | admitted | submitted | releasing => exact hs'
  | _ => exact absurd h habsent

/-- Every call is where its admission says. -/
def Placed (w : SingleWriter) : Prop := ∀ x, (w.caller x).Fits (w.ledger.standing x)

lemma Placed.update (h : Placed w) (hc : c.Fits (w.ledger.standing x)) :
    ∀ y, (Function.update w.caller x c y).Fits (w.ledger.standing y) :=
  (Function.forall_update_iff _ fun y (c : Caller) => c.Fits (w.ledger.standing y)).mpr
    ⟨hc, fun y _ => h y⟩

/-- A part of a release happens to an admission that is entered, and leaves it so. -/
lemma release_beyond {size : ℕ → ℤ} {stage : Stage} {actor : Actor}
    (h : l.Step size (.release stage actor x) l') :
    Beyond (l.standing x) ∧ Beyond (l'.standing x) := by
  cases h with
  | claim h | returnCount h | returnBytes h =>
    refine ⟨?_, ?_⟩
    · rw [h]
      exact ⟨by simp, by simp⟩
    · simp [Beyond, Ledger.place]

lemma Placed.caller (h : Placed w) (hstep : CallerStep b w x e w') : Placed w' := by
  have hx := h x
  cases hstep with
  | count hpc hledger | weigh hpc hledger =>
    -- the only two steps that move the call and its admission at once
    intro y
    by_cases hy : y = x
    · subst hy
      cases hledger
      simp [goes, exits, Ledger.place, Caller.Fits, Beyond]
    · have hsame := hledger.standing_of_ne hy
      simp only [goes, exits, Function.update_of_ne hy, hsame]
      exact h y
  | seesClosed hpc | reserve hpc | oversized hpc | enter hpc | insideClosed hpc | insideOpen hpc
  | countFree hpc | countFull hpc | bytesFree hpc | bytesFull hpc | late hpc | wait hpc | wake hpc
  | waitInterrupted hpc | reject hpc | giveUp hpc | getsCancelled hpc =>
    rw [hpc] at hx
    exact h.update hx
  | accept hpc =>
    rw [hpc] at hx
    intro y
    rw [enqueue_caller, enqueue_ledger]
    exact h.update (c := .submitted) hx y
  | inline hpc =>
    rw [hpc] at hx
    have hs : w.ledger.standing x ≠ .counted := by simp [show w.ledger.standing x = .absent from hx]
    refine h.update ?_
    split <;> exact hs
  | gets hpc =>
    rw [hpc] at hx
    refine h.update ?_
    split <;> exact hx.2
  | @throws reason hpc =>
    rw [hpc] at hx
    refine h.update ?_
    cases reason <;> exact hx

lemma Placed.step (h : Placed w) (hstep : Step b w e w') : Placed w' := by
  cases hstep with
  | caller hstep => exact h.caller hstep
  | writer hstep => cases hstep <;> exact h
  | closer hstep => cases hstep <;> exact h
  | @release stage actor x ledger hin hledger =>
    intro y
    by_cases hy : y = x
    · subst hy
      obtain ⟨hbefore, hafter⟩ := release_beyond hledger
      exact (h y).beyond hbefore hafter
    · rw [hledger.standing_of_ne hy]
      exact h y

theorem placed (h : Run (Step b) initial trace w) : Placed w := by
  have h₀ : Placed initial := fun _ => rfl
  exact h.stateInvariant h₀ Placed.step

/-! ## The limits -/

/-- The call holds the admission monitor. -/
def Caller.InMonitor : Caller → Prop
  | inside | seenOpen | countFree | bytesFree | full | counted => True
  | _ => False

/-- The bytes of a call fit into the budget. -/
def Budget.Fits (b : Budget) (x : ℕ) : Prop :=
  1 ≤ b.estimatedBytes x ∧ b.estimatedBytes x ≤ b.maxPendingBytes

/-- What a call in the monitor has established about the counters. -/
def Caller.Knows (b : Budget) (l : Ledger ℕ Actor) (x : ℕ) : Caller → Prop
  | waiting | inside | seenOpen | full => b.Fits x
  | countFree => b.Fits x ∧ l.pendingCount < b.maxPendingCount
  | bytesFree =>
    b.Fits x ∧ l.pendingCount < b.maxPendingCount ∧
      l.pendingBytes ≤ b.maxPendingBytes - b.estimatedBytes x
  | counted => b.Fits x ∧ l.pendingBytes ≤ b.maxPendingBytes - b.estimatedBytes x
  | _ => True

lemma Caller.Knows.anti (h : c.Knows b l x) (hcount : l'.pendingCount ≤ l.pendingCount)
    (hbytes : l'.pendingBytes ≤ l.pendingBytes) :
    c.Knows b l' x := by
  cases c with
  | countFree => exact ⟨h.1, hcount.trans_lt h.2⟩
  | bytesFree => exact ⟨h.1, hcount.trans_lt h.2.1, hbytes.trans h.2.2⟩
  | counted => exact ⟨h.1, hbytes.trans h.2⟩
  | _ => exact h

lemma Caller.Knows.of_not_inMonitor (h : c.Knows b l x) (hc : ¬ c.InMonitor) : c.Knows b l' x := by
  cases c with
  | inside | seenOpen | countFree | bytesFree | full | counted => exact absurd trivial hc
  | _ => exact h

/-- Only the owner of the monitor lets anything in, and it has made sure that there is room. -/
structure Admitting (b : Budget) (w : SingleWriter) : Prop where
  monitor_iff : ∀ x, (w.caller x).InMonitor ↔ w.monitor = some x
  knows : ∀ x, (w.caller x).Knows b w.ledger x
  issued_fits : ∀ x, w.ledger.standing x ≠ .absent → b.Fits x
  count_le : w.ledger.pendingCount ≤ b.maxPendingCount
  bytes_le : w.ledger.pendingBytes ≤ b.maxPendingBytes

namespace Admitting

variable {c : Caller}

/-- One call goes on: what is left to show of the others is about the monitor and the counters. -/
lemma of_moves {l : Ledger ℕ Actor} {m : Option ℕ} (hmonitor : c.InMonitor ↔ m = some x)
    (hknows : c.Knows b l x)
    (hothers : ∀ y, y ≠ x → ((w.caller y).InMonitor ↔ m = some y) ∧ (w.caller y).Knows b l y)
    (hissued : ∀ y, l.standing y ≠ .absent → b.Fits y) (hcount : l.pendingCount ≤ b.maxPendingCount)
    (hbytes : l.pendingBytes ≤ b.maxPendingBytes) :
    Admitting b { w.goes x c with ledger := l, monitor := m } := by
  refine ⟨?_, ?_, hissued, hcount, hbytes⟩
  · exact (Function.forall_update_iff _ fun y (c : Caller) => c.InMonitor ↔ m = some y).mpr
      ⟨hmonitor, fun y hy => (hothers y hy).1⟩
  · exact (Function.forall_update_iff _ fun y (c : Caller) => c.Knows b l y).mpr
      ⟨hknows, fun y hy => (hothers y hy).2⟩

section

variable (h : Admitting b w)
include h

lemma goes (hmonitor : c.InMonitor ↔ (w.caller x).InMonitor)
    (hknows : c.Knows b w.ledger x) : Admitting b (w.goes x c) :=
  of_moves (hmonitor.trans (h.monitor_iff x)) hknows (fun y _ => ⟨h.monitor_iff y, h.knows y⟩)
    h.issued_fits h.count_le h.bytes_le

lemma enters (hfree : w.monitor = none) (hc : c.InMonitor)
    (hknows : c.Knows b w.ledger x) : Admitting b { w.goes x c with monitor := some x } := by
  refine of_moves (iff_of_true hc rfl) hknows (fun y hy => ⟨?_, h.knows y⟩) h.issued_fits h.count_le
    h.bytes_le
  simp [h.monitor_iff, hfree, hy.symm]

/-- The owner of the monitor moves on, stays in it or leaves it, and may change the counters: no
other call has established anything about them. -/
lemma owner {l : Ledger ℕ Actor} {m : Option ℕ} (hin : (w.caller x).InMonitor)
    (hm : m = some x ∧ c.InMonitor ∨ m = none ∧ ¬ c.InMonitor) (hknows : c.Knows b l x)
    (hissued : ∀ y, l.standing y ≠ .absent → b.Fits y) (hcount : l.pendingCount ≤ b.maxPendingCount)
    (hbytes : l.pendingBytes ≤ b.maxPendingBytes) :
    Admitting b { w.goes x c with ledger := l, monitor := m } := by
  have hout {y : ℕ} (hy : y ≠ x) : ¬ (w.caller y).InMonitor := by
    rw [h.monitor_iff, (h.monitor_iff x).mp hin]
    simpa using hy.symm
  refine of_moves ?_ hknows (fun y hy => ⟨?_, (h.knows y).of_not_inMonitor (hout hy)⟩) hissued hcount
    hbytes
  · rcases hm with ⟨rfl, hc⟩ | ⟨rfl, hc⟩ <;> simp [hc]
  · rcases hm with ⟨rfl, -⟩ | ⟨rfl, -⟩ <;> simp [hout hy, hy.symm]

lemma exits (hin : (w.caller x).InMonitor) (hc : ¬ c.InMonitor)
    (hknows : c.Knows b w.ledger x) : Admitting b (w.exits x c) :=
  h.owner hin (.inr ⟨rfl, hc⟩) hknows h.issued_fits h.count_le h.bytes_le

lemma caller (hstep : CallerStep b w x e w') : Admitting b w' := by
  have hx := h.knows x
  cases hstep with
  | enter hpc hmin hmax hm => exact h.enters hm trivial ⟨hmin, hmax⟩
  | wake hpc hm =>
    rw [hpc] at hx
    exact h.enters hm trivial hx
  | insideClosed hpc | late hpc =>
    exact h.exits (by rw [hpc]; trivial) (by simp [Caller.InMonitor]) trivial
  | wait hpc =>
    rw [hpc] at hx
    exact h.exits (by rw [hpc]; trivial) (by simp [Caller.InMonitor]) hx
  | insideOpen hpc | countFull hpc =>
    rw [hpc] at hx
    exact h.goes (by rw [hpc]; simp [Caller.InMonitor]) hx
  | countFree hpc hfree =>
    rw [hpc] at hx
    exact h.goes (by rw [hpc]; simp [Caller.InMonitor]) ⟨hx, hfree⟩
  | bytesFree hpc hfree =>
    rw [hpc] at hx
    exact h.goes (by rw [hpc]; simp [Caller.InMonitor]) ⟨hx.1, hx.2, hfree⟩
  | bytesFull hpc =>
    rw [hpc] at hx
    exact h.goes (by rw [hpc]; simp [Caller.InMonitor]) hx.1
  | count hpc hledger =>
    rw [hpc] at hx
    obtain ⟨hfits, hcount, hbytes⟩ := hx
    have hin : (w.caller x).InMonitor := by
      rw [hpc]
      trivial
    have hmonitor : w.monitor = some x := (h.monitor_iff x).mp hin
    cases hledger
    refine h.owner hin (.inl ⟨hmonitor, trivial⟩) ⟨hfits, hbytes⟩ (fun y hy => ?_) ?_ h.bytes_le
    · by_cases hyx : y = x
      · exact hyx ▸ hfits
      · exact h.issued_fits y (by simpa [Ledger.place, Function.update_of_ne hyx] using hy)
    · show w.ledger.pendingCount + 1 ≤ b.maxPendingCount
      omega
  | weigh hpc hledger =>
    rw [hpc] at hx
    obtain ⟨hfits, hbytes⟩ := hx
    have hin : (w.caller x).InMonitor := by
      rw [hpc]
      trivial
    cases hledger
    refine h.owner hin (.inr ⟨rfl, by simp [Caller.InMonitor]⟩) trivial (fun y hy => ?_) h.count_le ?_
    · by_cases hyx : y = x
      · exact hyx ▸ hfits
      · exact h.issued_fits y (by simpa [Ledger.place, Function.update_of_ne hyx] using hy)
    · show w.ledger.pendingBytes + b.estimatedBytes x ≤ b.maxPendingBytes
      omega
  | seesClosed hpc | reserve hpc | oversized hpc | waitInterrupted hpc | reject hpc
  | getsCancelled hpc | throws hpc =>
    exact h.goes (by rw [hpc]; simp [Caller.InMonitor]) trivial
  | accept hpc =>
    have hnext : Admitting b (w.goes x .submitted) :=
      h.goes (by rw [hpc]; simp [Caller.InMonitor]) trivial
    obtain ⟨hmonitor, hknows, hissued, hcount, hbytes⟩ := hnext
    constructor <;> simpa
  | @giveUp reason hpc =>
    have hnext : Admitting b (w.goes x (.releasing reason)) :=
      h.goes (by rw [hpc]; simp [Caller.InMonitor]) trivial
    exact ⟨hnext.monitor_iff, hnext.knows, hnext.issued_fits, hnext.count_le, hnext.bytes_le⟩
  | inline hpc | gets hpc =>
    refine h.goes (by rw [hpc]; simp [Caller.InMonitor]) ?_
    split <;> trivial

lemma release {stage : Stage} {actor : Actor} {l : Ledger ℕ Actor}
    (hledger : w.ledger.Step b.estimatedBytes (.release stage actor x) l) :
    Admitting b { w with ledger := l } := by
  have hfits : b.Fits x := h.issued_fits x (release_beyond hledger).1.1
  have hissued (y : ℕ) (hy : l.standing y ≠ .absent) : b.Fits y := by
    by_cases hyx : y = x
    · exact hyx ▸ hfits
    · rw [hledger.standing_of_ne hyx] at hy
      exact h.issued_fits y hy
  have hdown : l.pendingCount ≤ w.ledger.pendingCount ∧ l.pendingBytes ≤ w.ledger.pendingBytes := by
    have hpos := hfits.1
    cases hledger <;> constructor <;> simp only [Ledger.place] <;> omega
  exact ⟨h.monitor_iff, fun y => (h.knows y).anti hdown.1 hdown.2, hissued,
    hdown.1.trans h.count_le, hdown.2.trans h.bytes_le⟩

lemma step (hstep : Step b w e w') : Admitting b w' := by
  cases hstep with
  | caller hstep => exact h.caller hstep
  | writer hstep =>
    cases hstep <;> exact ⟨h.monitor_iff, h.knows, h.issued_fits, h.count_le, h.bytes_le⟩
  | closer hstep =>
    cases hstep <;> exact ⟨h.monitor_iff, h.knows, h.issued_fits, h.count_le, h.bytes_le⟩
  | release hin hledger => exact h.release hledger

end

end Admitting

theorem admitting (h : Run (Step b) initial trace w) : Admitting b w := by
  have h₀ : Admitting b initial := by
    have hcount : (0 : ℤ) ≤ b.maxPendingCount := by
      unfold Budget.maxPendingCount
      omega
    exact ⟨fun x => by simp [initial, Caller.InMonitor], fun x => trivial,
      fun x hx => absurd rfl hx, hcount, b.bytes_pos.le⟩
  exact h.stateInvariant h₀ Admitting.step

/-! ## Who will release an admission -/

/-- The task that the writer thread is at. -/
def Worker.task : Worker → Option ℕ
  | took x | active x | running x | ran x | releasing x => some x
  | none | idle | terminated => .none

/-- The tasks that `close` has still to release. -/
def Closer.tasks : Closer → List ℕ
  | cancelling tasks _ => tasks
  | releasing x tasks _ => x :: tasks
  | _ => []

/-- Some thread has the admission before it and has not got to its release. -/
def Carried (w : SingleWriter) (x : ℕ) : Prop :=
  w.caller x = .admitted ∨ w.caller x = .releasing .rejected ∨ x ∈ w.queue ∨
    w.worker.task = some x ∨ x ∈ w.closer.tasks

/-- Every admission that is not given back has a thread that will do it. -/
structure Owned (w : SingleWriter) : Prop where
  held : ∀ x, w.ledger.standing x = .held → Carried w x
  claimed : ∀ x actor, w.ledger.standing x = .claimed actor ∨ w.ledger.standing x = .half actor →
    w.Releasing x actor

namespace Owned

/-- One call goes on: what is left to show is about its own admission. -/
lemma goes (h : Owned w) {c : Caller} {l : Ledger ℕ Actor} {m : Option ℕ} {f : ℕ → Future}
    (hother : ∀ y, y ≠ x → l.standing y = w.ledger.standing y)
    (hheld : l.standing x = .held →
      Carried { w.goes x c with ledger := l, monitor := m, future := f } x)
    (hclaimed : ∀ actor, l.standing x = .claimed actor ∨ l.standing x = .half actor →
      Releasing { w.goes x c with ledger := l, monitor := m, future := f } x actor) :
    Owned { w.goes x c with ledger := l, monitor := m, future := f } := by
  refine ⟨fun y hy => ?_, fun y actor hy => ?_⟩ <;> rcases eq_or_ne y x with rfl | hyx
  · exact hheld hy
  · have hcarried : Carried w y := h.held y (by rw [← hother y hyx]; exact hy)
    simpa [Carried, SingleWriter.goes, Function.update_of_ne hyx] using hcarried
  · exact hclaimed actor hy
  · have hin : w.Releasing y actor := h.claimed y actor (by rw [← hother y hyx]; exact hy)
    cases actor <;> simpa [Releasing, SingleWriter.goes, Function.update_of_ne hyx] using hin

/-- A call that neither hands over its admission nor releases it goes on: no one is concerned. -/
lemma passes (h : Owned w) {c : Caller} {m : Option ℕ} {f : ℕ → Future}
    (hadmitted : w.caller x ≠ .admitted) (hreleasing : ∀ reason, w.caller x ≠ .releasing reason) :
    Owned { w.goes x c with monitor := m, future := f } := by
  refine h.goes (fun _ _ => rfl) (fun hx => ?_) fun actor hx => ?_
  · rcases h.held x hx with hc | hc | hc
    · exact absurd hc hadmitted
    · exact absurd hc (hreleasing _)
    · exact .inr (.inr hc)
  · have hin : w.Releasing x actor := h.claimed x actor hx
    cases actor with
    | caller =>
      obtain ⟨reason, hreason⟩ := hin
      exact absurd hreason (hreleasing reason)
    | writer | closer => exact hin

/-- The other threads go on without dropping a task that they have still to release. -/
lemma threads (h : Owned w) (hledger : w'.ledger = w.ledger) (hcaller : w'.caller = w.caller)
    (hcarried : ∀ y, w.ledger.standing y = .held →
      y ∈ w.queue ∨ w.worker.task = some y ∨ y ∈ w.closer.tasks →
        y ∈ w'.queue ∨ w'.worker.task = some y ∨ y ∈ w'.closer.tasks)
    (hwriter : ∀ y, w.worker = .releasing y → w.ledger.Busy .writer y → w'.worker = .releasing y)
    (hcloser : ∀ y, w.Releasing y .closer → w.ledger.Busy .closer y → w'.Releasing y .closer) :
    Owned w' := by
  refine ⟨fun y hy => ?_, fun y actor hy => ?_⟩ <;> rw [hledger] at hy
  · rw [Carried, hcaller]
    exact (h.held y hy).imp_right (Or.imp_right (hcarried y hy))
  · have hin : w.Releasing y actor := h.claimed y actor hy
    cases actor with
    | caller => rwa [Releasing, hcaller]
    | writer => exact hwriter y hin (.inr hy)
    | closer => exact hcloser y hin (.inr hy)

lemma enqueue (h : Owned w) (x : ℕ) : Owned (w.enqueue x) := by
  refine h.threads (enqueue_ledger w x) (enqueue_caller w x) (fun y _ hy => ?_) (fun y hy _ => ?_)
    fun y hy _ => by rwa [Releasing, enqueue_closer]
  · unfold SingleWriter.enqueue
    split
    case h_1 hnone =>
      rw [hnone] at hy
      exact hy.imp_right fun hy => .inr (hy.resolve_left nofun)
    case h_2 => exact hy.imp_left (List.mem_append_left _)
  · simp [SingleWriter.enqueue, hy]

/-- A task that the executor takes is in the queue, or the first thread starts with it. -/
lemma carried_enqueue (w : SingleWriter) (x : ℕ) :
    x ∈ (w.enqueue x).queue ∨ (w.enqueue x).worker.task = some x := by
  unfold SingleWriter.enqueue
  split
  · exact .inr rfl
  · exact .inl (by simp)

lemma accept (h : Owned w) (hpc : w.caller x = .admitted) :
    Owned ((w.goes x .submitted).enqueue x) := by
  have hcomm : (w.goes x .submitted).enqueue x = (w.enqueue x).goes x .submitted := by
    cases hworker : w.worker <;> simp [SingleWriter.enqueue, SingleWriter.goes, hworker]
  rw [hcomm]
  refine (h.enqueue x).goes (fun _ _ => rfl) (fun _ => ?_) fun actor hx => ?_
  · exact .inr (.inr ((carried_enqueue w x).imp_right .inl))
  · have hin := (h.enqueue x).claimed x actor hx
    cases actor with
    | caller => simp [Releasing, hpc] at hin
    | writer | closer => exact hin

lemma caller (h : Owned w) (hstep : CallerStep b w x e w') : Owned w' := by
  cases hstep with
  | count hpc hledger =>
    have hother (y : ℕ) (hy : y ≠ x) := hledger.standing_of_ne hy
    cases hledger
    exact h.goes hother (by simp [Ledger.place]) (by simp [Ledger.place])
  | weigh hpc hledger =>
    have hother (y : ℕ) (hy : y ≠ x) := hledger.standing_of_ne hy
    cases hledger
    exact h.goes hother (fun _ => .inl (by simp [SingleWriter.goes])) (by simp [Ledger.place])
  | seesClosed hpc | inline hpc | reserve hpc | oversized hpc | enter hpc | insideClosed hpc
  | insideOpen hpc | countFree hpc | countFull hpc | bytesFree hpc | bytesFull hpc | late hpc
  | wait hpc | wake hpc | waitInterrupted hpc | giveUp hpc | getsCancelled hpc | gets hpc =>
    exact h.passes (by simp [hpc]) (by simp [hpc])
  | accept hpc => exact h.accept hpc
  | reject hpc =>
    refine h.goes (fun _ _ => rfl) (fun _ => ?_) fun actor hx => ?_
    · exact .inr (.inl (by simp [SingleWriter.goes]))
    · cases actor with
      | caller => exact ⟨.rejected, by simp [SingleWriter.goes]⟩
      | writer | closer => exact h.claimed x _ hx
  | throws hpc hfree =>
    -- the release is over for this call, so whatever is left of it is another thread's
    refine h.goes (fun _ _ => rfl) (fun hx => absurd (.inl hx) hfree) fun actor hx => ?_
    cases actor with
    | caller => exact absurd (.inr hx) hfree
    | writer | closer => exact h.claimed x _ hx

lemma writer (h : Owned w) (hstep : WriterStep w e w') : Owned w' := by
  cases hstep with
  | take hworker hqueue =>
    refine h.threads rfl rfl (fun y _ hy => ?_) (by simp [hworker]) fun _ hy _ => hy
    rw [hqueue, hworker, List.mem_cons, or_assoc] at hy
    rcases hy with rfl | hrest | hidle | hcloser
    · exact .inr (.inl rfl)
    · exact .inl hrest
    · cases hidle
    · exact .inr (.inr hcloser)
  | activate hworker | begin hworker | skip hworker | finish hworker | deactivate hworker
  | terminate hworker =>
    refine h.threads rfl rfl (fun y _ hy => ?_) (by simp [hworker]) fun _ hy _ => hy
    rwa [hworker] at hy
  | next hworker hfree =>
    refine h.threads rfl rfl (fun y hheld hy => ?_) (fun y hy hbusy => ?_) fun _ hy _ => hy
    · rw [hworker] at hy
      refine hy.imp_right fun hy => .inr (hy.resolve_left ?_)
      rintro ⟨⟩
      exact hfree (.inl hheld)
    · rw [hworker] at hy
      cases hy
      exact absurd hbusy hfree

lemma closer (h : Owned w) (hstep : CloserStep w w') : Owned w' := by
  cases hstep with
  | mark hpc | setClosed hpc | shutdown hpc | drain hpc | join hpc | confirm hpc
  | unconfirmed hpc | cancel hpc | readActive hpc =>
    refine h.threads rfl rfl (fun y _ hy => ?_) (fun _ hy _ => hy) (by simp [Releasing, hpc])
    simp only [hpc, Closer.tasks, List.not_mem_nil] at hy ⊢
    tauto
  | next hpc hfree =>
    refine h.threads rfl rfl (fun y hheld hy => ?_) (fun _ hy _ => hy) fun y hy hbusy => ?_
    · rw [hpc] at hy
      refine hy.imp_right (Or.imp_right fun hy => (List.mem_cons.mp hy).resolve_left ?_)
      rintro rfl
      exact hfree (.inl hheld)
    · obtain ⟨tasks, activeRead, hy⟩ := hy
      rw [hpc] at hy
      cases hy
      exact absurd hbusy hfree

lemma step (h : Owned w) (hstep : Step b w e w') : Owned w' := by
  cases hstep with
  | caller hstep => exact h.caller hstep
  | writer hstep => exact h.writer hstep
  | closer hstep => exact h.closer hstep
  | @release stage actor x ledger hin hledger =>
    refine ⟨fun y hy => ?_, fun y actor' hy => ?_⟩ <;> rcases eq_or_ne y x with rfl | hyx
    · cases hledger <;> simp [Ledger.place] at hy
    · rw [hledger.standing_of_ne hyx] at hy
      exact h.held y hy
    · obtain rfl : actor = actor' := by
        cases hledger with
        | claim | returnCount => simpa [Ledger.place] using hy
        | returnBytes => simp [Ledger.place] at hy
      exact hin
    · rw [hledger.standing_of_ne hyx] at hy
      exact h.claimed y actor' hy

end Owned

theorem owned (h : Run (Step b) initial trace w) : Owned w := by
  have h₀ : Owned initial := by
    refine ⟨fun y hy => ?_, fun y actor hy => ?_⟩
    · cases hy
    · rcases hy with hy | hy <;> cases hy
  exact h.stateInvariant h₀ Owned.step

/-! ## After `close` -/

/-- What the executor and `close` have come to. -/
structure Closing (w : SingleWriter) : Prop where
  drained : w.phase = .stopped → w.queue = []
  unstarted : w.worker = .none → w.queue = []
  confirmed : w.closeConfirmed = true → w.phase = .stopped ∧ w.WorkerGone ∧ w.closer = .idle

namespace Closing

lemma unconfirmed (h : Closing w) (hpc : w.closer ≠ .idle) : w.closeConfirmed ≠ true :=
  fun hconfirmed => hpc (h.confirmed hconfirmed).2.2

lemma caller (h : Closing w) (hstep : CallerStep b w x e w') : Closing w' := by
  cases hstep with
  | accept hpc hphase =>
    constructor
    · intro hstopped
      rw [enqueue_phase] at hstopped
      exact absurd hstopped hphase
    · intro hnone
      unfold enqueue at hnone ⊢
      split at hnone
      case h_1 => cases hnone
      case h_2 hworker => exact absurd hnone hworker
    · intro hconfirmed
      rw [enqueue_closeConfirmed] at hconfirmed
      exact absurd (h.confirmed hconfirmed).1 hphase
  | _ => exact ⟨h.drained, h.unstarted, h.confirmed⟩

lemma writer (h : Closing w) (hstep : WriterStep w e w') : Closing w' := by
  cases hstep with
  | @take task rest hworker hqueue =>
    have hopen : w.phase ≠ .stopped := by
      intro hstopped
      rw [h.drained hstopped] at hqueue
      cases hqueue
    exact ⟨fun hstopped => absurd hstopped hopen, nofun,
      fun hconfirmed => absurd (h.confirmed hconfirmed).1 hopen⟩
  | terminate hworker hphase =>
    refine ⟨h.drained, nofun, fun hconfirmed => ?_⟩
    obtain ⟨hstopped, -, hidle⟩ := h.confirmed hconfirmed
    exact ⟨hstopped, .inr rfl, hidle⟩
  | activate hworker | begin hworker | skip hworker | finish hworker | deactivate hworker
  | next hworker =>
    refine ⟨h.drained, nofun, fun hconfirmed => ?_⟩
    obtain ⟨-, hgone, -⟩ := h.confirmed hconfirmed
    rcases hgone with hgone | hgone <;> rw [hworker] at hgone <;> cases hgone

lemma closer (h : Closing w) (hstep : CloserStep w w') : Closing w' := by
  cases hstep with
  | drain hpc =>
    have hnot := h.unconfirmed (by simp [hpc])
    exact ⟨fun _ => rfl, fun _ => rfl, fun hconfirmed => absurd hconfirmed hnot⟩
  | confirm hpc hphase hworker => exact ⟨h.drained, h.unstarted, fun _ => ⟨hphase, hworker, rfl⟩⟩
  | mark hpc hopen =>
    refine ⟨h.drained, h.unstarted, fun hconfirmed => ?_⟩
    exact absurd hconfirmed (by simp [hopen])
  | shutdown hpc =>
    have hnot := h.unconfirmed (by simp [hpc])
    refine ⟨fun hstopped => h.drained ?_, h.unstarted, fun hconfirmed => absurd hconfirmed hnot⟩
    by_cases hopen : w.phase = .open
    · simp [hopen] at hstopped
    · simpa [hopen] using hstopped
  | setClosed hpc | cancel hpc | next hpc | readActive hpc | join hpc | unconfirmed hpc =>
    have hnot := h.unconfirmed (by simp [hpc])
    exact ⟨h.drained, h.unstarted, fun hconfirmed => absurd hconfirmed hnot⟩

lemma step (h : Closing w) (hstep : Step b w e w') : Closing w' := by
  cases hstep with
  | caller hstep => exact h.caller hstep
  | writer hstep => exact h.writer hstep
  | closer hstep => exact h.closer hstep
  | release => exact ⟨h.drained, h.unstarted, h.confirmed⟩

end Closing

theorem closing (h : Run (Step b) initial trace w) : Closing w := by
  have h₀ : Closing initial := ⟨fun _ => rfl, fun _ => rfl, nofun⟩
  exact h.stateInvariant h₀ Closing.step

/-- A call has not begun, or has returned. -/
def Caller.Out (c : Caller) : Prop := c = .start ∨ ∃ outcome, c = .done outcome

/-- **No leak.**  Once nothing is in the queue, the writer thread is between tasks, `close` has no
task before it and every call has returned, every admission has been given back. -/
lemma returned_of_quiet (hplaced : Placed w) (howned : Owned w) (hqueue : w.queue = [])
    (hworker : w.worker.task = none) (hcloser : w.closer.tasks = [])
    (hout : ∀ x, (w.caller x).Out) (hx : w.ledger.standing x ≠ .absent) :
    ∃ actor, w.ledger.standing x = .returned actor := by
  have hfits := hplaced x
  have hnone (actor : Actor) : ¬ w.Releasing x actor := by
    intro hin
    cases actor with
    | caller =>
      obtain ⟨reason, hreason⟩ := hin
      rcases hout x with hc | ⟨outcome, hc⟩ <;> rw [hreason] at hc <;> cases hc
    | writer =>
      have hreleasing : w.worker = .releasing x := hin
      rw [hreleasing] at hworker
      cases hworker
    | closer =>
      obtain ⟨tasks, activeRead, hreleasing⟩ := hin
      rw [hreleasing] at hcloser
      cases hcloser
  cases hs : w.ledger.standing x with
  | absent => exact absurd hs hx
  | counted =>
    rw [hs] at hfits
    rcases hout x with hc | ⟨outcome, hc⟩ <;> rw [hc] at hfits
    · cases hfits
    · cases outcome with
      | value | failed => exact absurd rfl hfits
      | refused => cases hfits
      | rejected | abandoned => exact absurd rfl hfits.2
  | held =>
    rcases howned.held x hs with hc | hc | hc | hc | hc
    · rcases hout x with hc' | ⟨outcome, hc'⟩ <;> rw [hc] at hc' <;> cases hc'
    · rcases hout x with hc' | ⟨outcome, hc'⟩ <;> rw [hc] at hc' <;> cases hc'
    · simp [hqueue] at hc
    · simp [hworker] at hc
    · simp [hcloser] at hc
  | claimed actor => exact absurd (howned.claimed x actor (.inl hs)) (hnone actor)
  | half actor => exact absurd (howned.claimed x actor (.inr hs)) (hnone actor)
  | returned actor => exact ⟨actor, rfl⟩

/-! ## The order of the tasks -/

def Event.acceptedTask : Event → Option ℕ
  | accepted x => some x
  | _ => none

def Event.begunTask : Event → Option ℕ
  | begun x => some x
  | _ => none

/-- The tasks that the executor has taken, in the order of the calls. -/
def acceptedTasks (trace : List Event) : List ℕ := trace.filterMap Event.acceptedTask

/-- The tasks whose work has begun, in that order. -/
def begunTasks (trace : List Event) : List ℕ := trace.filterMap Event.begunTask

/-- The task whose work is under way. -/
def inWork (trace : List Event) : Option ℕ :=
  trace.foldl (fun task e =>
    match e with
    | .begun x => some x
    | .ended _ => none
    | _ => task) none

/-- The work of a task begins only while no other is under way. -/
def Alternates (past : List Event) : Event → Prop
  | .begun _ => inWork past = none
  | .ended x => inWork past = some x
  | _ => True

/-- The task that the writer thread has taken and not begun. -/
def Worker.upcoming : Worker → List ℕ
  | took x | active x => [x]
  | _ => []

/-- The task whose work the writer thread is in. -/
def Worker.work : Worker → Option ℕ
  | running x => some x
  | _ => .none

/-- The executor runs what it has accepted in order, one task at a time. -/
structure Served (trace : List Event) (w : SingleWriter) : Prop where
  order : ∃ past, (begunTasks trace ++ w.worker.upcoming).Sublist past ∧
    past ++ w.queue <+: acceptedTasks trace ∧
    (w.phase ≠ .stopped → past ++ w.queue = acceptedTasks trace)
  work : inWork trace = w.worker.work
  alternates : Justified Alternates trace

lemma inWork_snoc (e : Event) : inWork (trace ++ [e]) =
    match e with
    | .begun x => some x
    | .ended _ => none
    | _ => inWork trace := by
  simp [inWork, List.foldl_append]

lemma acceptedTasks_snoc (h : e.acceptedTask = none) :
    acceptedTasks (trace ++ [e]) = acceptedTasks trace := by
  simp [acceptedTasks, h]

lemma begunTasks_snoc (h : e.begunTask = none) :
    begunTasks (trace ++ [e]) = begunTasks trace := by
  simp [begunTasks, h]

lemma acceptedTasks_accepted :
    acceptedTasks (trace ++ [.accepted x]) = acceptedTasks trace ++ [x] := by
  simp [acceptedTasks, Event.acceptedTask]

lemma begunTasks_begun : begunTasks (trace ++ [.begun x]) = begunTasks trace ++ [x] := by
  simp [begunTasks, Event.begunTask]

namespace Served

/-- A step that accepts and begins nothing, and takes something out of the queue for good only. -/
lemma frame (h : Served trace w) (haccepted : e.acceptedTask = none) (hbegun : e.begunTask = none)
    (hallowed : Alternates trace e) (hwork : inWork (trace ++ [e]) = w'.worker.work)
    (hqueue : w'.queue <+: w.queue)
    (hphase : w'.phase ≠ .stopped → w.phase ≠ .stopped ∧ w'.queue = w.queue)
    (hupcoming : w'.worker.upcoming.Sublist w.worker.upcoming) : Served (trace ++ [e]) w' := by
  obtain ⟨past, hpast, hprefix, heq⟩ := h.order
  refine ⟨⟨past, ?_, ?_, fun hrunning => ?_⟩, hwork, h.alternates.snoc hallowed⟩
  · rw [begunTasks_snoc hbegun]
    exact (hupcoming.append_left _).trans hpast
  · rw [acceptedTasks_snoc haccepted]
    exact ((List.prefix_append_right_inj past).mpr hqueue).trans hprefix
  · obtain ⟨hbefore, hsame⟩ := hphase hrunning
    rw [acceptedTasks_snoc haccepted, hsame]
    exact heq hbefore

lemma quiet (h : Served trace w) (haccepted : e.acceptedTask = none) (hbegun : e.begunTask = none)
    (hended : ∀ x, e ≠ .ended x) (hqueue : w'.queue = w.queue) (hphase : w'.phase = w.phase)
    (hupcoming : w'.worker.upcoming.Sublist w.worker.upcoming)
    (hwork : w'.worker.work = w.worker.work) : Served (trace ++ [e]) w' := by
  have hboth : Alternates trace e ∧ inWork (trace ++ [e]) = inWork trace := by
    rw [inWork_snoc]
    cases e with
    | begun => cases hbegun
    | ended x => exact absurd rfl (hended x)
    | _ => exact ⟨trivial, rfl⟩
  exact h.frame haccepted hbegun hboth.1 (by rw [hboth.2, h.work, hwork]) (hqueue ▸ List.prefix_rfl)
    (hphase ▸ fun hrunning => ⟨hrunning, hqueue⟩) hupcoming

lemma accept (h : Served trace w) (hclosing : Closing w) (hphase : w.phase ≠ .stopped) :
    Served (trace ++ [.accepted x]) (w.enqueue x) := by
  obtain ⟨past, hpast, -, heq⟩ := h.order
  have heq := heq hphase
  have hbegun : begunTasks (trace ++ [.accepted x]) = begunTasks trace := begunTasks_snoc rfl
  have haccepted : acceptedTasks (trace ++ [.accepted x]) = past ++ w.queue ++ [x] := by
    rw [heq, acceptedTasks_accepted]
  have hwork : (w.enqueue x).worker.work = w.worker.work := by
    unfold enqueue
    split
    case h_1 hnone => simp [hnone, Worker.work]
    case h_2 => rfl
  refine ⟨?_, ?_, h.alternates.snoc trivial⟩
  · cases hworker : w.worker with
    | none =>
      -- the first thread starts with the task, and nothing is in the queue yet
      have hqueue : w.queue = [] := hclosing.unstarted hworker
      rw [hworker] at hpast
      refine ⟨past ++ [x], ?_, ?_, fun _ => ?_⟩
      · simpa [enqueue, hworker, hbegun, Worker.upcoming] using hpast
      · simp [enqueue, hworker, haccepted, hqueue]
      · simp [enqueue, hworker, haccepted, hqueue]
    | _ =>
      rw [hworker] at hpast
      refine ⟨past, ?_, ?_, fun _ => ?_⟩
      · simpa [enqueue, hworker, hbegun] using hpast
      · simp [enqueue, hworker, haccepted]
      · simp [enqueue, hworker, haccepted]
  · rw [inWork_snoc, hwork]
    exact h.work

lemma writer (h : Served trace w) (hstep : WriterStep w e w') :
    Served (trace ++ [e]) w' := by
  cases hstep with
  | @take x rest hworker hqueue =>
    obtain ⟨past, hpast, hprefix, heq⟩ := h.order
    rw [hworker] at hpast
    rw [hqueue] at hprefix heq
    refine ⟨⟨past ++ [x], ?_, ?_, fun hphase => ?_⟩, ?_, h.alternates.snoc trivial⟩
    · rw [begunTasks_snoc rfl]
      simpa [Worker.upcoming] using hpast
    · rw [acceptedTasks_snoc rfl]
      simpa using hprefix
    · rw [acceptedTasks_snoc rfl]
      simpa using heq hphase
    · rw [inWork_snoc, h.work, hworker]
      rfl
  | @begin x hworker hnew =>
    obtain ⟨past, hpast, hprefix, heq⟩ := h.order
    rw [hworker] at hpast
    have hnone : inWork trace = none := by
      rw [h.work, hworker]
      rfl
    refine ⟨⟨past, ?_, ?_, fun hphase => ?_⟩, ?_, h.alternates.snoc hnone⟩
    · rw [begunTasks_begun]
      simpa [Worker.upcoming] using hpast
    · rw [acceptedTasks_snoc rfl]
      exact hprefix
    · rw [acceptedTasks_snoc rfl]
      exact heq hphase
    · rw [inWork_snoc]
      rfl
  | finish hworker =>
    have hsome := h.work
    rw [hworker] at hsome
    exact h.frame rfl rfl hsome (inWork_snoc _) List.prefix_rfl (fun hphase => ⟨hphase, rfl⟩)
      (by simp [hworker, Worker.upcoming])
  | activate hworker | skip hworker | deactivate hworker | next hworker | terminate hworker =>
    exact h.quiet rfl rfl (by simp) rfl rfl (by simp [hworker, Worker.upcoming])
      (by simp [hworker, Worker.work])

lemma step (h : Served trace w) (hclosing : Closing w) (hstep : Step b w e w') :
    Served (trace ++ [e]) w' := by
  cases hstep with
  | @caller x e w' hstep =>
    cases hstep with
    | accept hpc hphase =>
      have hnext : Served trace (w.goes x .submitted) := ⟨h.order, h.work, h.alternates⟩
      have hcloses : Closing (w.goes x .submitted) :=
        ⟨hclosing.drained, hclosing.unstarted, hclosing.confirmed⟩
      exact hnext.accept hcloses hphase
    | _ => exact h.quiet rfl rfl (by simp) rfl rfl (.refl _) rfl
  | writer hstep => exact h.writer hstep
  | closer hstep =>
    cases hstep with
    | drain hpc =>
      -- what is drained was accepted and is never taken
      exact h.frame rfl rfl trivial ((inWork_snoc _).trans h.work) List.nil_prefix
        (fun hphase => absurd rfl hphase) (.refl _)
    | shutdown hpc =>
      refine h.frame rfl rfl trivial ((inWork_snoc _).trans h.work) List.prefix_rfl
        (fun hphase => ⟨?_, rfl⟩) (.refl _)
      intro hstopped
      simp [hstopped] at hphase
    | _ => exact h.quiet rfl rfl (by simp) rfl rfl (.refl _) rfl
  | release => exact h.quiet rfl rfl (by simp) rfl rfl (.refl _) rfl

end Served

theorem served (h : Run (Step b) initial trace w) : Served trace w := by
  induction h with
  | nil => exact ⟨⟨[], by simp [initial, begunTasks, Worker.upcoming], by simp [initial],
      fun _ => rfl⟩, rfl, .nil⟩
  | snoc hrun hstep ih => exact ih.step (closing hrun) hstep

/-! ## What is reported of a task -/

/-- The executor has accepted the task of the call. -/
def Caller.Accepted : Caller → Prop
  | submitted | releasing .timeout | releasing .interrupted | releasing .cancelled
  | done .value | done .failed | done (.abandoned _) => True
  | _ => False

/-- The executor has rejected the task of the call. -/
def Caller.Rejected : Caller → Prop
  | releasing .rejected | done (.rejected _) => True
  | _ => False

lemma Caller.Accepted.not_rejected (h : c.Accepted) : ¬ c.Rejected := by
  intro hrejected
  cases c with
  | releasing reason => cases reason <;> first | exact h | exact hrejected
  | done outcome => cases outcome <;> first | exact h | exact hrejected
  | submitted => exact hrejected
  | _ => exact h

/-- A task is accepted or rejected once, and its call knows which. -/
structure Reported (trace : List Event) (w : SingleWriter) : Prop where
  accepted : ∀ x ∈ acceptedTasks trace, (w.caller x).Accepted
  rejected : ∀ x, .rejected x ∈ trace → (w.caller x).Rejected
  nodup : (acceptedTasks trace).Nodup

namespace Reported

section

variable (h : Reported trace w)
include h

/-- A step that accepts and rejects nothing, and lets no call forget what became of its task. -/
lemma quiet (haccepted : e.acceptedTask = none)
    (hrejected : ∀ x, e ≠ .rejected x)
    (hkeeps : ∀ x, ((w.caller x).Accepted → (w'.caller x).Accepted) ∧
      ((w.caller x).Rejected → (w'.caller x).Rejected)) : Reported (trace ++ [e]) w' := by
  have hsame : acceptedTasks (trace ++ [e]) = acceptedTasks trace := acceptedTasks_snoc haccepted
  refine ⟨fun x hx => ?_, fun x hx => ?_, ?_⟩
  · rw [hsame] at hx
    exact (hkeeps x).1 (h.accepted x hx)
  · have hbefore : Event.rejected x ∈ trace := by
      simpa [(hrejected x).symm] using hx
    exact (hkeeps x).2 (h.rejected x hbefore)
  · rw [hsame]
    exact h.nodup

lemma goes (haccepted : e.acceptedTask = none)
    (hrejected : ∀ x, e ≠ .rejected x) {c : Caller}
    (hcaller : w'.caller = Function.update w.caller x c)
    (hc : (w.caller x).Accepted → c.Accepted) (hc' : (w.caller x).Rejected → c.Rejected) :
    Reported (trace ++ [e]) w' := by
  refine h.quiet haccepted hrejected fun y => ?_
  rw [hcaller]
  by_cases hy : y = x
  · subst hy
    rw [Function.update_self]
    exact ⟨hc, hc'⟩
  · rw [Function.update_of_ne hy]
    exact ⟨id, id⟩

/-- A call that has not handed over its task finds nothing about it in the trace. -/
lemma notMem_of_admitted (hpc : w.caller x = .admitted) :
    x ∉ acceptedTasks trace := by
  intro hmem
  have hknown := h.accepted x hmem
  rw [hpc] at hknown
  exact hknown

lemma accept (hpc : w.caller x = .admitted)
    (hcaller : w'.caller = Function.update w.caller x .submitted) :
    Reported (trace ++ [.accepted x]) w' := by
  have hx : x ∉ acceptedTasks trace := h.notMem_of_admitted hpc
  have hx' : Event.rejected x ∉ trace := by
    intro hmem
    have hknown := h.rejected x hmem
    rw [hpc] at hknown
    exact hknown
  refine ⟨fun y hy => ?_, fun y hy => ?_, ?_⟩
  · rw [acceptedTasks_accepted] at hy
    rw [hcaller]
    by_cases hyx : y = x
    · rw [hyx, Function.update_self]
      trivial
    · rw [Function.update_of_ne hyx]
      exact h.accepted y (by simpa [hyx] using hy)
  · have hbefore : Event.rejected y ∈ trace := by simpa using hy
    have hyx : y ≠ x := by
      rintro rfl
      exact hx' hbefore
    rw [hcaller, Function.update_of_ne hyx]
    exact h.rejected y hbefore
  · rw [acceptedTasks_accepted]
    rw [← List.concat_eq_append]
    exact h.nodup.concat hx

lemma reject (hpc : w.caller x = .admitted)
    (hcaller : w'.caller = Function.update w.caller x (.releasing .rejected)) :
    Reported (trace ++ [.rejected x]) w' := by
  have hx : x ∉ acceptedTasks trace := h.notMem_of_admitted hpc
  have hsame : acceptedTasks (trace ++ [.rejected x]) = acceptedTasks trace :=
    acceptedTasks_snoc rfl
  refine ⟨fun y hy => ?_, fun y hy => ?_, ?_⟩
  · rw [hsame] at hy
    have hyx : y ≠ x := by
      rintro rfl
      exact hx hy
    rw [hcaller, Function.update_of_ne hyx]
    exact h.accepted y hy
  · rw [hcaller]
    by_cases hyx : y = x
    · rw [hyx, Function.update_self]
      trivial
    · rw [Function.update_of_ne hyx]
      exact h.rejected y (by simpa [hyx] using hy)
  · rw [hsame]
    exact h.nodup

lemma caller (hstep : CallerStep b w x e w') :
    Reported (trace ++ [e]) w' := by
  cases hstep with
  | accept hpc => exact h.accept hpc (enqueue_caller _ _)
  | reject hpc => exact h.reject hpc rfl
  | giveUp hpc hreason =>
    refine h.goes rfl (by simp) rfl (fun _ => ?_) (by simp [hpc, Caller.Rejected])
    rcases hreason with rfl | rfl <;> trivial
  | gets hpc =>
    refine h.goes rfl (by simp) rfl (fun _ => ?_) (by simp [hpc, Caller.Rejected])
    split <;> trivial
  | getsCancelled hpc =>
    exact h.goes rfl (by simp) rfl (fun _ => trivial) (by simp [hpc, Caller.Rejected])
  | @throws reason hpc =>
    refine h.goes rfl (by simp) rfl (fun hc => ?_) (fun hc => ?_)
    · rw [hpc] at hc
      cases reason <;> trivial
    · rw [hpc] at hc
      cases reason <;> trivial
  | seesClosed hpc | inline hpc | reserve hpc | oversized hpc | enter hpc | insideClosed hpc
  | insideOpen hpc | countFree hpc | countFull hpc | bytesFree hpc | bytesFull hpc | count hpc
  | weigh hpc | late hpc | wait hpc | wake hpc | waitInterrupted hpc =>
    exact h.goes rfl (by simp) rfl (by simp [hpc, Caller.Accepted]) (by simp [hpc, Caller.Rejected])

lemma step (hstep : Step b w e w') : Reported (trace ++ [e]) w' := by
  cases hstep with
  | caller hstep => exact h.caller hstep
  | writer hstep => cases hstep <;> exact h.quiet rfl (by simp) fun _ => ⟨id, id⟩
  | closer hstep => cases hstep <;> exact h.quiet rfl (by simp) fun _ => ⟨id, id⟩
  | release => exact h.quiet rfl (by simp) fun _ => ⟨id, id⟩

end

end Reported

theorem reported (h : Run (Step b) initial trace w) : Reported trace w := by
  have h₀ : Reported [] initial := ⟨by simp [acceptedTasks], by simp, by simp [acceptedTasks]⟩
  exact h.invariant h₀ Reported.step

/-! ## The promise -/

/-- How often a part of releasing an admission has happened. -/
def releases (stage : Stage) (x : ℕ) (trace : List Event) : ℕ :=
  (trace.filterMap Event.movement).countP (Movement.isRelease stage x)

/-- What the writer promises of a run: the counters are what the admissions that are not yet released
add up to, each of them has left the counter at most once, and nothing is left once `close` and all
calls have returned.  A release takes an admission out of one counter after the other, so each
counter has its own set of admissions. -/
structure Sound (b : Budget) (trace : List Event) (w : SingleWriter) : Prop where
  issued_iff : ∀ x, x ∈ w.ledger.issued ↔ .moved (.counted x) ∈ trace
  count_eq : w.ledger.pendingCount =
    (w.ledger.issued.filter fun x => (w.ledger.standing x).inCount).card
  bytes_eq : w.ledger.pendingBytes =
    ∑ x ∈ w.ledger.issued with (w.ledger.standing x).inBytes, b.estimatedBytes x
  count_bounds : 0 ≤ w.ledger.pendingCount ∧ w.ledger.pendingCount ≤ b.maxPendingCount
  bytes_bounds : 0 ≤ w.ledger.pendingBytes ∧ w.ledger.pendingBytes ≤ b.maxPendingBytes
  released_once : ∀ stage x, releases stage x trace ≤ 1
  in_order : (begunTasks trace).Sublist (acceptedTasks trace) ∧ (acceptedTasks trace).Nodup
  one_at_a_time : Justified Alternates trace
  rejected_never_runs : ∀ x, (.rejected x ∈ trace ∨
    ∃ code, w.caller x = .done (.rejected code) ∨ w.caller x = .done (.refused code)) →
    .begun x ∉ trace
  quiet : w.queue = [] → w.worker.task = none → w.closer.tasks = [] → (∀ x, (w.caller x).Out) →
    w.ledger.pendingCount = 0 ∧ w.ledger.pendingBytes = 0 ∧
      ∀ x, .moved (.counted x) ∈ trace → ∀ stage, releases stage x trace = 1
  closed : w.closeConfirmed = true → (∀ x, (w.caller x).Out) →
    w.ledger.pendingCount = 0 ∧ w.ledger.pendingBytes = 0 ∧
      ∀ x, .moved (.counted x) ∈ trace → ∀ stage, releases stage x trace = 1

lemma accepted_of_begun (h : Served trace w) (hx : .begun x ∈ trace) : x ∈ acceptedTasks trace := by
  obtain ⟨past, hpast, hprefix, -⟩ := h.order
  have hbegun : x ∈ begunTasks trace := List.mem_filterMap.mpr ⟨_, hx, rfl⟩
  have hmem : x ∈ past := hpast.subset (List.mem_append_left _ hbegun)
  exact hprefix.subset (List.mem_append_left _ hmem)

/-- **The single writer.**  For every interleaving of any number of calls with the writer thread and
`close`, the admissions are accounted for, and the tasks run one at a time in the order in which the
executor accepted them. -/
theorem writer_sound (h : Run (Step b) initial trace w) : Sound b trace w := by
  have hledger := ledger_run h
  have hbalanced := Ledger.balanced hledger
  have hadmitting := admitting h
  have hserved := served h
  have hreported := reported h
  have hcounted (x : ℕ) : .moved (.counted x) ∈ trace ↔ w.ledger.standing x ≠ .absent := by
    rw [← Ledger.counted_mem_iff hledger, List.mem_filterMap]
    constructor
    · intro hmem
      exact ⟨_, hmem, rfl⟩
    · rintro ⟨e, hmem, he⟩
      cases e with
      | moved m =>
        cases he
        exact hmem
      | _ => cases he
  have hquiet (hqueue : w.queue = []) (hworker : w.worker.task = none)
      (hcloser : w.closer.tasks = []) (hout : ∀ x, (w.caller x).Out) :
      w.ledger.pendingCount = 0 ∧ w.ledger.pendingBytes = 0 ∧
        ∀ x, .moved (.counted x) ∈ trace → ∀ stage, releases stage x trace = 1 := by
    have hreturned (x : ℕ) (hx : w.ledger.standing x ≠ .absent) :=
      returned_of_quiet (placed h) (owned h) hqueue hworker hcloser hout hx
    obtain ⟨hcount, hbytes⟩ := hbalanced.eq_zero hreturned
    refine ⟨hcount, hbytes, fun x hx stage => ?_⟩
    obtain ⟨actor, hactor⟩ := hreturned x ((hcounted x).mp hx)
    rw [releases, Ledger.countP_release hledger, hactor]
    exact Standing.countP_release_returned stage x actor
  refine ⟨fun x => ?_, hbalanced.count_eq, hbalanced.bytes_eq, ⟨?_, hadmitting.count_le⟩,
    ⟨?_, hadmitting.bytes_le⟩, fun stage x => ?_, ⟨?_, hreported.nodup⟩, hserved.alternates,
    fun x hx hbegun => ?_, hquiet, fun hconfirmed hout => ?_⟩
  · rw [hbalanced.issued_iff, hcounted]
  · rw [hbalanced.count_eq]
    exact Int.natCast_nonneg _
  · rw [hbalanced.bytes_eq]
    refine Finset.sum_nonneg fun x hx => ?_
    have hmem : x ∈ w.ledger.issued := (Finset.mem_filter.mp hx).1
    have hfits := hadmitting.issued_fits x ((hbalanced.issued_iff x).mp hmem)
    exact le_trans (by norm_num) hfits.1
  · rw [releases, Ledger.countP_release hledger]
    exact Standing.countP_release_le stage x _
  · obtain ⟨past, hpast, hprefix, -⟩ := hserved.order
    have hbegun : (begunTasks trace).Sublist past := (List.sublist_append_left _ _).trans hpast
    exact hbegun.trans ((List.sublist_append_left _ _).trans hprefix.sublist)
  · -- what has begun was accepted, and a call knows which of the two became of its task
    have haccepted := hreported.accepted x (accepted_of_begun hserved hbegun)
    rcases hx with hrejected | ⟨code, hc | hc⟩
    · exact haccepted.not_rejected (hreported.rejected x hrejected)
    · rw [hc] at haccepted
      exact haccepted
    · rw [hc] at haccepted
      exact haccepted
  · have hclosing := closing h
    obtain ⟨hstopped, hgone, hidle⟩ := hclosing.confirmed hconfirmed
    refine hquiet (hclosing.drained hstopped) ?_ (by simp [hidle, Closer.tasks]) hout
    rcases hgone with hgone | hgone <;> simp [hgone, Worker.task]

/-- One call whose task runs, and a `close` after it. -/
theorem writer_sound_of_one_call : ∃ (b : Budget) (trace : List Event) (w : SingleWriter),
    w.closeConfirmed = true ∧ w.caller 0 = .done .value ∧ Sound b trace w := by
  let b : Budget := ⟨1, 4, fun _ => 1, by decide, by decide⟩
  have new : Run (Step b) initial [] initial := .nil
  have reserved := new
    |>.snoc (.caller (x := 0) (.reserve rfl rfl))
    |>.snoc (.caller (x := 0) (.enter rfl (by decide) (by decide) rfl))
    |>.snoc (.caller (x := 0) (.insideOpen rfl rfl))
    |>.snoc (.caller (x := 0) (.countFree rfl (by decide)))
    |>.snoc (.caller (x := 0) (.bytesFree rfl (by decide)))
    |>.snoc (.caller (x := 0) (.count rfl (.counted rfl)))
    |>.snoc (.caller (x := 0) (.weigh rfl (.weighed rfl)))
  have ran := reserved
    |>.snoc (.caller (x := 0) (.accept rfl (by decide) (.inl rfl)))
    |>.snoc (.writer (.activate rfl))
    |>.snoc (.writer (.begin rfl rfl))
    |>.snoc (.writer (@WriterStep.finish _ _ true rfl))
    |>.snoc (.writer (.deactivate rfl))
  have released := ran
    |>.snoc (@Step.release _ _ _ .writer _ _ rfl (.claim rfl))
    |>.snoc (@Step.release _ _ _ .writer _ _ rfl (.returnCount rfl))
    |>.snoc (@Step.release _ _ _ .writer _ _ rfl (.returnBytes rfl))
    |>.snoc (.writer (.next rfl (by simp [Ledger.Busy, Ledger.place])))
    |>.snoc (.caller (x := 0) (.gets rfl rfl))
  have closes := released
    |>.snoc (.closer (.mark rfl rfl))
    |>.snoc (.closer (.setClosed rfl))
    |>.snoc (.closer (.shutdown rfl))
    |>.snoc (.closer (.drain rfl))
    |>.snoc (.closer (.readActive rfl))
    |>.snoc (.closer (.join rfl))
    |>.snoc (.writer (.terminate rfl (by decide)))
    |>.snoc (.closer (.confirm rfl rfl (.inr rfl)))
  exact ⟨b, _, _, rfl, rfl, writer_sound closes⟩

end JaDesktop.Persistence.Writer
