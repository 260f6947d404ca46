import Mathlib.Algebra.BigOperators.Group.Finset.Piecewise
import Mathlib.Algebra.BigOperators.Ring.Finset
import Mathlib.Tactic.Linarith
import JaDesktop.Lib.Runs

/-!
# Admissions counted in two dimensions

A ledger counts what it has admitted and adds up its sizes, in two separate counters.  An admission
is entered in two steps, and given back in three by whichever actor claims it first: a claim that
only one actor can win, then each counter in turn.  Any number of actors try at any time.

`Balanced` says what the counters are while all of this is under way, and `filter_subject` what
happened to one admission: nothing but the next steps of this one life.
-/

namespace JaDesktop

variable {ι A : Type}

/-- Where an admission stands. -/
inductive Standing (A : Type)
  | absent
  | counted
  | held
  | claimed (actor : A)
  | half (actor : A)
  | returned (actor : A)
deriving DecidableEq

/-- The parts of giving an admission back. -/
inductive Stage
  | claim
  | count
  | bytes
deriving DecidableEq

/-- What happens to a ledger. -/
inductive Movement (ι A : Type)
  | counted (x : ι)
  | weighed (x : ι)
  | release (stage : Stage) (actor : A) (x : ι)
deriving DecidableEq

/-- The admission that a movement is about. -/
def Movement.subject : Movement ι A → ι
  | .counted x | .weighed x | .release _ _ x => x

/-- The movement is a part of giving an admission back. -/
def Movement.isRelease [DecidableEq ι] (stage : Stage) (x : ι) : Movement ι A → Bool
  | .release s _ y => s = stage && y = x
  | _ => false

namespace Standing

/-- The first counter has the admission. -/
def inCount : Standing A → Bool
  | counted | held | claimed _ => true
  | absent | half _ | returned _ => false

/-- The second counter has the size of the admission. -/
def inBytes : Standing A → Bool
  | held | claimed _ | half _ => true
  | absent | counted | returned _ => false

/-- The movements that bring an admission to where it stands. -/
def history (x : ι) : Standing A → List (Movement ι A)
  | absent => []
  | counted => [.counted x]
  | held => [.counted x, .weighed x]
  | claimed a => [.counted x, .weighed x, .release .claim a x]
  | half a => [.counted x, .weighed x, .release .claim a x, .release .count a x]
  | returned a =>
    [.counted x, .weighed x, .release .claim a x, .release .count a x, .release .bytes a x]

lemma countP_release_le [DecidableEq ι] (stage : Stage) (x : ι) (standing : Standing A) :
    (standing.history x).countP (Movement.isRelease stage x) ≤ 1 := by
  cases standing <;> cases stage <;> simp [history, Movement.isRelease]

lemma countP_release_returned [DecidableEq ι] (stage : Stage) (x : ι) (actor : A) :
    ((returned actor).history x).countP (Movement.isRelease stage x) = 1 := by
  cases stage <;> simp [history, Movement.isRelease]

end Standing

/-- The two counters, and where each admission stands. -/
structure Ledger (ι A : Type) where
  pendingCount : ℤ
  pendingBytes : ℤ
  standing : ι → Standing A
  issued : Finset ι

namespace Ledger

/-- Nothing is admitted. -/
def empty : Ledger ι A := ⟨0, 0, fun _ => .absent, ∅⟩

/-- An actor in the middle of giving an admission back has a step left to take. -/
def Busy (l : Ledger ι A) (actor : A) (x : ι) : Prop :=
  l.standing x = .held ∨ l.standing x = .claimed actor ∨ l.standing x = .half actor

variable [DecidableEq ι]

def place (l : Ledger ι A) (x : ι) (standing : Standing A) : Ledger ι A :=
  { l with standing := Function.update l.standing x standing }

/-- One movement of a ledger, where `size` is the size of each admission. -/
inductive Step (size : ι → ℤ) (l : Ledger ι A) : Movement ι A → Ledger ι A → Prop
  | counted {x} (h : l.standing x = .absent) :
      Step size l (.counted x)
        { l.place x .counted with
          pendingCount := l.pendingCount + 1
          issued := insert x l.issued }
  | weighed {x} (h : l.standing x = .counted) :
      Step size l (.weighed x) { l.place x .held with pendingBytes := l.pendingBytes + size x }
  | claim {actor x} (h : l.standing x = .held) :
      Step size l (.release .claim actor x) (l.place x (.claimed actor))
  | returnCount {actor x} (h : l.standing x = .claimed actor) :
      Step size l (.release .count actor x)
        { l.place x (.half actor) with pendingCount := l.pendingCount - 1 }
  | returnBytes {actor x} (h : l.standing x = .half actor) :
      Step size l (.release .bytes actor x)
        { l.place x (.returned actor) with pendingBytes := l.pendingBytes + -size x }

variable {size : ι → ℤ} {l l' : Ledger ι A} {m : Movement ι A} {ms : List (Movement ι A)}

/-- **One step.**  A movement takes its admission one step on and leaves every other where it
stands. -/
lemma Step.standing_eq (h : Step size l m l') :
    ∃ standing, l'.standing = Function.update l.standing m.subject standing ∧
      standing.history m.subject = (l.standing m.subject).history m.subject ++ [m] := by
  cases h with
  | counted h => exact ⟨.counted, rfl, by simp [Movement.subject, h, Standing.history]⟩
  | weighed h => exact ⟨.held, rfl, by simp [Movement.subject, h, Standing.history]⟩
  | claim h => exact ⟨.claimed _, rfl, by simp [Movement.subject, h, Standing.history]⟩
  | returnCount h => exact ⟨.half _, rfl, by simp [Movement.subject, h, Standing.history]⟩
  | returnBytes h => exact ⟨.returned _, rfl, by simp [Movement.subject, h, Standing.history]⟩

lemma Step.standing_of_ne (h : Step size l m l') {x : ι} (hx : x ≠ m.subject) :
    l'.standing x = l.standing x := by
  obtain ⟨standing, heq, -⟩ := h.standing_eq
  rw [heq, Function.update_of_ne hx]

section

variable (h : Run (Step size) (empty : Ledger ι A) ms l)
include h

/-- **The life of an admission.**  In every run, what happened to an admission is one movement after
the other up to where it stands: no counter takes it or gives it back twice, and the actor that
gives it back is the one that claimed it. -/
theorem filter_subject (x : ι) :
    ms.filter (fun m => m.subject = x) = (l.standing x).history x := by
  induction h with
  | nil => rfl
  | @snoc ms l m l' _ hstep ih =>
    obtain ⟨standing, hstanding, hhistory⟩ := hstep.standing_eq
    rw [List.filter_append, ih]
    by_cases hx : x = m.subject
    · subst hx
      rw [hstanding, Function.update_self, hhistory]
      simp
    · rw [hstanding, Function.update_of_ne hx]
      have hm : ¬ m.subject = x := fun h => hx h.symm
      simp [hm]

lemma countP_release (stage : Stage) (x : ι) :
    ms.countP (Movement.isRelease stage x) =
      ((l.standing x).history x).countP (Movement.isRelease stage x) := by
  rw [← filter_subject h x, List.countP_filter]
  refine List.countP_congr fun m _ => ?_
  cases m <;> simp +contextual [Movement.isRelease, Movement.subject]

lemma counted_mem_iff (x : ι) :
    .counted x ∈ ms ↔ l.standing x ≠ .absent := by
  have hlife := filter_subject h x
  have hmem : .counted x ∈ ms ↔ .counted x ∈ ms.filter (fun m => m.subject = x) := by
    simp [Movement.subject]
  rw [hmem, hlife]
  cases l.standing x <;> simp [Standing.history]

end

/-- The counters are what the admissions that they have add up to. -/
structure Balanced (size : ι → ℤ) (l : Ledger ι A) : Prop where
  issued_iff : ∀ x, x ∈ l.issued ↔ l.standing x ≠ .absent
  count_eq : l.pendingCount = (l.issued.filter fun x => (l.standing x).inCount).card
  bytes_eq : l.pendingBytes = ∑ x ∈ l.issued with (l.standing x).inBytes, size x

/-- What an admission adds to the first counter. -/
private def one (standing : Standing A) (_ : ι) : ℤ := if standing.inCount then 1 else 0

/-- What an admission adds to the second counter. -/
private def weight (size : ι → ℤ) (standing : Standing A) (x : ι) : ℤ :=
  if standing.inBytes then size x else 0

/-- How a sum over the admissions changes when one of them is placed elsewhere. -/
private lemma sum_update (s : Finset ι) (g : Standing A → ι → ℤ) (f : ι → Standing A) {x : ι}
    (hx : x ∈ s) (standing : Standing A) :
    ∑ y ∈ s, g (Function.update f x standing y) y =
      ∑ y ∈ s, g (f y) y + (g standing x - g (f x) x) := by
  have hnew := Finset.add_sum_erase s (fun y => g (Function.update f x standing y) y) hx
  have hold := Finset.add_sum_erase s (fun y => g (f y) y) hx
  have hrest : ∑ y ∈ s.erase x, g (Function.update f x standing y) y =
      ∑ y ∈ s.erase x, g (f y) y := by
    refine Finset.sum_congr rfl fun y hy => ?_
    rw [Function.update_of_ne (Finset.ne_of_mem_erase hy)]
  simp only [Function.update_self] at hnew
  linarith

/-- The same for an admission that was not among them. -/
private lemma sum_insert_update (s : Finset ι) (g : Standing A → ι → ℤ) (f : ι → Standing A)
    {x : ι} (hx : x ∉ s) (standing : Standing A) :
    ∑ y ∈ insert x s, g (Function.update f x standing y) y =
      ∑ y ∈ s, g (f y) y + g standing x := by
  rw [Finset.sum_insert hx, Function.update_self, add_comm]
  congr 1
  refine Finset.sum_congr rfl fun y hy => ?_
  rw [Function.update_of_ne (ne_of_mem_of_not_mem hy hx)]

omit [DecidableEq ι] in
/-- Both counters as sums of what each admission adds. -/
private lemma balanced_iff : Balanced size l ↔
    (∀ x, x ∈ l.issued ↔ l.standing x ≠ .absent) ∧
      l.pendingCount = ∑ x ∈ l.issued, one (l.standing x) x ∧
      l.pendingBytes = ∑ x ∈ l.issued, weight size (l.standing x) x := by
  have hcount : ((l.issued.filter fun x => (l.standing x).inCount).card : ℤ) =
      ∑ x ∈ l.issued, one (l.standing x) x := Finset.natCast_card_filter _ _
  have hbytes : (∑ x ∈ l.issued with (l.standing x).inBytes, size x) =
      ∑ x ∈ l.issued, weight size (l.standing x) x := Finset.sum_filter _ _
  rw [← hcount, ← hbytes]
  exact ⟨fun h => ⟨h.issued_iff, h.count_eq, h.bytes_eq⟩, fun h => ⟨h.1, h.2.1, h.2.2⟩⟩

omit [DecidableEq ι] in
lemma balanced_empty : Balanced size (empty : Ledger ι A) := by
  refine balanced_iff.mpr ⟨fun x => ?_, ?_, ?_⟩ <;> simp [empty]

/-- An admission that is there is placed elsewhere, and the counters change by the difference. -/
private lemma Balanced.move (hb : Balanced size l) {x : ι} {standing : Standing A}
    (hold : l.standing x ≠ .absent) (hnew : standing ≠ .absent) {count bytes : ℤ}
    (hcount : count = l.pendingCount + (one standing x - one (l.standing x) x))
    (hbytes : bytes = l.pendingBytes + (weight size standing x - weight size (l.standing x) x)) :
    Balanced size
      { l.place x standing with pendingCount := count, pendingBytes := bytes } := by
  obtain ⟨hissued, hc, hs⟩ := balanced_iff.mp hb
  have hx : x ∈ l.issued := (hissued x).mpr hold
  refine balanced_iff.mpr ⟨fun y => ?_, ?_, ?_⟩
  · by_cases hy : y = x
    · subst hy
      simpa [place, hnew] using hx
    · simpa [place, Function.update_of_ne hy] using hissued y
  · rw [hcount, hc]
    exact (sum_update _ one _ hx standing).symm
  · rw [hbytes, hs]
    exact (sum_update _ (weight size) _ hx standing).symm

lemma Balanced.step (hb : Balanced size l) (h : Step size l m l') : Balanced size l' := by
  cases h with
  | @counted x h =>
    obtain ⟨hissued, hcount, hbytes⟩ := balanced_iff.mp hb
    have hx : x ∉ l.issued := by simp [hissued, h]
    refine balanced_iff.mpr ⟨fun y => ?_, ?_, ?_⟩
    · by_cases hy : y = x
      · simp [hy, place]
      · simp [place, hy, hissued y]
    · refine Eq.trans ?_ (sum_insert_update l.issued one l.standing hx .counted).symm
      simp [hcount, one, Standing.inCount]
    · refine Eq.trans ?_ (sum_insert_update l.issued (weight size) l.standing hx .counted).symm
      simp [place, hbytes, weight, Standing.inBytes]
  | weighed h =>
    exact hb.move (by simp [h]) (by simp) (by simp [place, h, one, Standing.inCount])
      (by simp [h, weight, Standing.inBytes])
  | claim h =>
    exact hb.move (by simp [h]) (by simp) (by simp [h, one, Standing.inCount])
      (by simp [h, weight, Standing.inBytes])
  | returnCount h =>
    exact hb.move (by simp [h]) (by simp) (by simp [h, one, Standing.inCount, sub_eq_add_neg])
      (by simp [place, h, weight, Standing.inBytes])
  | returnBytes h =>
    exact hb.move (by simp [h]) (by simp) (by simp [place, h, one, Standing.inCount])
      (by simp [h, weight, Standing.inBytes])

/-- **The counters.**  In every run each counter is what the admissions that it has add up to. -/
theorem balanced (h : Run (Step size) (empty : Ledger ι A) ms l) : Balanced size l :=
  h.stateInvariant balanced_empty Balanced.step

omit [DecidableEq ι] in
/-- When every admission has been given back both counters are back at zero. -/
theorem Balanced.eq_zero (h : Balanced size l)
    (hreturned : ∀ x, l.standing x ≠ .absent → ∃ actor, l.standing x = .returned actor) :
    l.pendingCount = 0 ∧ l.pendingBytes = 0 := by
  constructor
  · rw [h.count_eq, Finset.filter_false_of_mem]
    · simp
    · intro x hx
      obtain ⟨actor, hactor⟩ := hreturned x ((h.issued_iff x).mp hx)
      simp [hactor, Standing.inCount]
  · rw [h.bytes_eq, Finset.filter_false_of_mem]
    · simp
    · intro x hx
      obtain ⟨actor, hactor⟩ := hreturned x ((h.issued_iff x).mp hx)
      simp [hactor, Standing.inBytes]

end Ledger

end JaDesktop
