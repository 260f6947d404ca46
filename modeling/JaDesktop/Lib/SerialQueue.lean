import Mathlib.Data.List.Basic
import Mathlib.Data.List.Nodup
import Mathlib.Data.List.Pairwise

/-!
# A serial queue that joins equal keys

Operations run one at a time, in the order in which they were queued.  A call whose key belongs to
an operation in flight joins its waiters; every other call queues an operation with a new epoch.
When an operation settles, each of its waiters is left to go on with the result.
-/

namespace JaDesktop

/-- An operation in flight, with the waiters for its result in the order of their calls. -/
structure QueuedOperation (κ ω φ : Type) where
  epoch : ℕ
  key : κ
  operation : ω
  waiters : List φ

/-- A waiter that can go on. -/
structure Resumption (ω φ ρ : Type) where
  epoch : ℕ
  operation : ω
  waiter : φ
  result : ρ

/-- The queue, its oldest operation first; `running` says how far this one has got. -/
structure SerialQueue (κ ω φ ρ π : Type) where
  epoch : ℕ
  queue : List (QueuedOperation κ ω φ)
  running : Option π
  settled : List (Resumption ω φ ρ)

/-- What an observer sees of the operations. -/
inductive QueueEvent
  | queued (epoch : ℕ)
  | begun (epoch : ℕ)
  | settled (epoch : ℕ)
deriving DecidableEq

variable {κ ω φ ρ π : Type} [DecidableEq κ]

namespace SerialQueue

variable (q : SerialQueue κ ω φ ρ π)

/-- The operation of a key. -/
def inFlight (key : κ) : Option (QueuedOperation κ ω φ) :=
  q.queue.find? fun operation => operation.key = key

def has (key : κ) : Bool := (q.inFlight key).isSome

/-- Wait for the operation of a key. -/
def join (key : κ) (waiter : φ) : SerialQueue κ ω φ ρ π :=
  let wait (operation : QueuedOperation κ ω φ) : QueuedOperation κ ω φ :=
    if operation.key = key then { operation with waiters := operation.waiters ++ [waiter] }
    else operation
  { q with queue := q.queue.map wait }

def append (key : κ) (operation : ω) (waiter : φ) : SerialQueue κ ω φ ρ π :=
  { q with epoch := q.epoch + 1, queue := q.queue ++ [⟨q.epoch + 1, key, operation, [waiter]⟩] }

/-- Join the operation of a key, or queue a new one. -/
def enqueue (key : κ) (operation : ω) (waiter : φ) : SerialQueue κ ω φ ρ π :=
  if q.has key then q.join key waiter else q.append key operation waiter

/-- The epoch of the operation that a call with a key waits for. -/
def epochOf (key : κ) : ℕ := (q.inFlight key).elim (q.epoch + 1) QueuedOperation.epoch

omit [DecidableEq κ] in
def advance (phase : π) : SerialQueue κ ω φ ρ π := { q with running := some phase }

omit [DecidableEq κ] in
/-- The first operation has a result. -/
def settle (result : ρ) : SerialQueue κ ω φ ρ π :=
  match q.queue with
  | [] => q
  | first :: rest =>
    { q with
      queue := rest
      running := none
      settled := q.settled ++ first.waiters.map fun waiter =>
        ⟨first.epoch, first.operation, waiter, result⟩ }

omit [DecidableEq κ] in
/-- The first waiter has gone on. -/
def resume : SerialQueue κ ω φ ρ π := { q with settled := q.settled.tail }

omit [DecidableEq κ] in
/-- No operation is the newest any more. -/
def supersede : SerialQueue κ ω φ ρ π := { q with epoch := q.epoch + 1 }

/-! ## Order -/

/-- Epochs increase along the queue, keys differ, and what has settled is older than what is in
flight. -/
structure Ordered : Prop where
  increasing : (q.queue.map QueuedOperation.epoch).Pairwise (· < ·)
  distinct : (q.queue.map QueuedOperation.key).Nodup
  le_epoch : ∀ o ∈ q.queue, o.epoch ≤ q.epoch
  settled_le : ∀ r ∈ q.settled, r.epoch ≤ q.epoch
  settled_lt : ∀ r ∈ q.settled, ∀ o ∈ q.queue, r.epoch < o.epoch
  agree : ∀ r ∈ q.settled, ∀ r' ∈ q.settled, r.epoch = r'.epoch →
    r.operation = r'.operation ∧ r.result = r'.result

variable {q} {key : κ} {operation : ω} {waiter : φ}

omit [DecidableEq κ] in
lemma Ordered.queue_eq_nil (h : q.Ordered) {r : Resumption ω φ ρ} (hr : r ∈ q.settled)
    (hnewest : r.epoch = q.epoch) : q.queue = [] := by
  rw [List.eq_nil_iff_forall_not_mem]
  intro o ho
  have hlt := h.settled_lt r hr o ho
  have hle := h.le_epoch o ho
  omega

lemma map_epoch_join : (q.join key waiter).queue.map QueuedOperation.epoch =
    q.queue.map QueuedOperation.epoch := by
  rw [join, List.map_map]
  refine List.map_congr_left fun o _ => ?_
  rw [Function.comp_apply]
  split_ifs <;> rfl

lemma map_key_join : (q.join key waiter).queue.map QueuedOperation.key =
    q.queue.map QueuedOperation.key := by
  rw [join, List.map_map]
  refine List.map_congr_left fun o _ => ?_
  rw [Function.comp_apply]
  split_ifs <;> rfl

variable {o : QueuedOperation κ ω φ} {kind : φ → Bool}

lemma mem_join (h : o ∈ (q.join key waiter).queue) :
    ∃ old ∈ q.queue, o.epoch = old.epoch ∧ o.key = old.key ∧ o.operation = old.operation ∧
      (o.waiters = old.waiters ∨ old.key = key ∧ o.waiters = old.waiters ++ [waiter]) := by
  obtain ⟨old, hold, rfl⟩ := List.mem_map.mp h
  refine ⟨old, hold, ?_⟩
  split_ifs with hkey
  · exact ⟨rfl, rfl, rfl, Or.inr ⟨hkey, rfl⟩⟩
  · exact ⟨rfl, rfl, rfl, Or.inl rfl⟩

lemma mem_enqueue (h : o ∈ (q.enqueue key operation waiter).queue) :
    (∃ old ∈ q.queue, o.epoch = old.epoch ∧ o.key = old.key ∧ o.operation = old.operation ∧
      (o.waiters = old.waiters ∨ old.key = key ∧ o.waiters = old.waiters ++ [waiter])) ∨
      q.has key = false ∧ o = ⟨q.epoch + 1, key, operation, [waiter]⟩ := by
  unfold enqueue at h
  split_ifs at h with hhas
  · exact Or.inl (mem_join h)
  · rcases List.mem_append.mp h with hold | hadded
    · exact Or.inl ⟨o, hold, rfl, rfl, rfl, Or.inl rfl⟩
    · exact Or.inr ⟨by simpa using hhas, List.mem_singleton.mp hadded⟩

lemma mem_enqueue_of_mem (h : o ∈ q.queue) :
    ∃ new ∈ (q.enqueue key operation waiter).queue, new.epoch = o.epoch ∧
      o.waiters ⊆ new.waiters := by
  unfold enqueue
  split_ifs
  · refine ⟨_, List.mem_map.mpr ⟨o, h, rfl⟩, ?_⟩
    split_ifs
    · exact ⟨rfl, List.subset_append_left _ _⟩
    · exact ⟨rfl, List.Subset.refl _⟩
  · exact ⟨o, List.mem_append_left _ h, rfl, List.Subset.refl _⟩

lemma exists_waiter_enqueue : ∃ o ∈ (q.enqueue key operation waiter).queue, waiter ∈ o.waiters := by
  unfold enqueue
  split_ifs with hhas
  · obtain ⟨o, ho⟩ := Option.isSome_iff_exists.mp hhas
    have hkey : o.key = key := by simpa using List.find?_some ho
    refine ⟨_, List.mem_map.mpr ⟨o, List.mem_of_find?_eq_some ho, rfl⟩, ?_⟩
    rw [if_pos hkey]
    exact List.mem_append_right _ List.mem_cons_self
  · exact ⟨_, List.mem_append_right _ List.mem_cons_self, List.mem_cons_self⟩

lemma exists_of_has (h : q.has key = true) :
    ∃ o ∈ q.queue, o.key = key ∧ q.epochOf key = o.epoch := by
  obtain ⟨found, hfound⟩ := Option.isSome_iff_exists.mp h
  refine ⟨found, List.mem_of_find?_eq_some hfound, by simpa using List.find?_some hfound, ?_⟩
  rw [epochOf, hfound]
  rfl

lemma has_of_mem (ho : o ∈ q.queue) (hkey : o.key = key) :
    q.has key = true := by
  rw [has, inFlight, List.find?_isSome]
  exact ⟨o, ho, by simpa using hkey⟩

lemma queue_enqueue_ne_nil (h : q.queue ≠ []) :
    (q.enqueue key operation waiter).queue ≠ [] := by
  obtain ⟨first, rest, hqueue⟩ := List.exists_cons_of_ne_nil h
  unfold enqueue join append
  rw [hqueue]
  split_ifs <;> simp

lemma settled_enqueue : (q.enqueue key operation waiter).settled = q.settled := by
  unfold enqueue
  split_ifs <;> rfl

lemma running_enqueue : (q.enqueue key operation waiter).running = q.running := by
  unfold enqueue
  split_ifs <;> rfl

lemma epoch_enqueue : (q.enqueue key operation waiter).epoch =
    if q.has key then q.epoch else q.epoch + 1 := by
  unfold enqueue
  split_ifs <;> rfl

lemma head_enqueue {first : QueuedOperation κ ω φ} (hne : q.queue ≠ [])
    (h : first ∈ (q.enqueue key operation waiter).queue.head?) :
    ∃ old ∈ q.queue.head?, first.epoch = old.epoch ∧ first.operation = old.operation := by
  obtain ⟨old, rest, hqueue⟩ := List.exists_cons_of_ne_nil hne
  refine ⟨old, by rw [hqueue]; rfl, ?_⟩
  unfold enqueue join append at h
  rw [hqueue] at h
  split_ifs at h
  · obtain rfl := Option.some.inj h
    dsimp only
    split_ifs <;> exact ⟨rfl, rfl⟩
  · obtain rfl := Option.some.inj h
    exact ⟨rfl, rfl⟩

lemma Ordered.enqueue (h : q.Ordered) : (q.enqueue key operation waiter).Ordered := by
  unfold SerialQueue.enqueue
  split_ifs with hhas
  · constructor
    case increasing =>
      rw [map_epoch_join]
      exact h.increasing
    case distinct =>
      rw [map_key_join]
      exact h.distinct
    case le_epoch =>
      intro o ho
      obtain ⟨old, hold, hepoch, -⟩ := mem_join ho
      rw [hepoch]
      exact h.le_epoch old hold
    case settled_le => exact h.settled_le
    case settled_lt =>
      intro r hr o ho
      obtain ⟨old, hold, hepoch, -⟩ := mem_join ho
      rw [hepoch]
      exact h.settled_lt r hr old hold
    case agree => exact h.agree
  · constructor
    case increasing =>
      rw [append, List.map_append, List.pairwise_append]
      refine ⟨h.increasing, by simp, ?_⟩
      intro e he e' he'
      obtain ⟨o, ho, rfl⟩ := List.mem_map.mp he
      have hnew : e' = q.epoch + 1 := by simpa using he'
      rw [hnew]
      exact Nat.lt_succ_of_le (h.le_epoch o ho)
    case distinct =>
      rw [append, List.map_append, List.nodup_append]
      refine ⟨h.distinct, by simp, ?_⟩
      intro k hk k' hk' hsame
      obtain ⟨o, ho, rfl⟩ := List.mem_map.mp hk
      have hnew : k' = key := by simpa using hk'
      exact hhas (has_of_mem ho (hsame.trans hnew))
    case le_epoch =>
      intro o ho
      rcases List.mem_append.mp ho with hold | hnew
      · exact Nat.le_succ_of_le (h.le_epoch o hold)
      · rw [List.mem_singleton.mp hnew]
        exact Nat.le_refl _
    case settled_le => exact fun r hr => Nat.le_succ_of_le (h.settled_le r hr)
    case settled_lt =>
      exact fun r hr => List.forall_mem_append.mpr ⟨h.settled_lt r hr,
        List.forall_mem_singleton.mpr (Nat.lt_succ_of_le (h.settled_le r hr))⟩
    case agree => exact h.agree

omit [DecidableEq κ] in
lemma Ordered.advance (h : q.Ordered) (phase : π) : (q.advance phase).Ordered :=
  ⟨h.increasing, h.distinct, h.le_epoch, h.settled_le, h.settled_lt, h.agree⟩

omit [DecidableEq κ] in
lemma mem_settle {result : ρ} {r : Resumption ω φ ρ} (h : r ∈ (q.settle result).settled) :
    r ∈ q.settled ∨ ∃ first ∈ q.queue.head?, ∃ waiter ∈ first.waiters,
      r = ⟨first.epoch, first.operation, waiter, result⟩ := by
  unfold settle at h
  split at h
  · exact Or.inl h
  · next first rest hqueue =>
    rw [hqueue]
    rcases List.mem_append.mp h with hold | hnew
    · exact Or.inl hold
    · obtain ⟨waiter, hwaiter, rfl⟩ := List.mem_map.mp hnew
      exact Or.inr ⟨first, rfl, waiter, hwaiter, rfl⟩

omit [DecidableEq κ] in
lemma queue_settle (result : ρ) : (q.settle result).queue = q.queue.tail := by
  unfold settle
  split
  · next hqueue => rw [hqueue]; rfl
  · next hqueue => rw [hqueue]; rfl

omit [DecidableEq κ] in
lemma epoch_settle (result : ρ) : (q.settle result).epoch = q.epoch := by
  unfold settle
  split <;> rfl

omit [DecidableEq κ] in
lemma Ordered.settle (h : q.Ordered) (result : ρ) : (q.settle result).Ordered := by
  have hfirst : ∀ first ∈ q.queue.head?, first ∈ q.queue ∧
      ∀ o ∈ q.queue.tail, first.epoch < o.epoch := by
    intro first hfirst
    cases hqueue : q.queue with
    | nil =>
      rw [hqueue] at hfirst
      cases hfirst
    | cons head rest =>
      rw [hqueue] at hfirst
      obtain rfl := Option.some.inj hfirst
      have hincreasing := h.increasing
      rw [hqueue, List.map_cons, List.pairwise_cons] at hincreasing
      refine ⟨by simp, fun o ho => ?_⟩
      exact hincreasing.1 o.epoch (List.mem_map.mpr ⟨o, ho, rfl⟩)
  constructor
  case increasing =>
    rw [queue_settle, List.map_tail]
    exact h.increasing.sublist (List.tail_sublist _)
  case distinct =>
    rw [queue_settle, List.map_tail]
    exact h.distinct.sublist (List.tail_sublist _)
  case le_epoch =>
    rw [queue_settle, epoch_settle]
    exact fun o ho => h.le_epoch o (List.mem_of_mem_tail ho)
  case settled_le =>
    rw [epoch_settle]
    intro r hr
    rcases mem_settle hr with hold | ⟨first, hhead, waiter, -, rfl⟩
    · exact h.settled_le r hold
    · exact h.le_epoch first (hfirst first hhead).1
  case settled_lt =>
    rw [queue_settle]
    intro r hr o ho
    rcases mem_settle hr with hold | ⟨first, hhead, waiter, -, rfl⟩
    · exact h.settled_lt r hold o (List.mem_of_mem_tail ho)
    · exact (hfirst first hhead).2 o ho
  case agree =>
    intro r hr r' hr' hepoch
    rcases mem_settle hr with hold | ⟨first, hhead, waiter, -, rfl⟩ <;>
      rcases mem_settle hr' with hold' | ⟨first', hhead', waiter', -, rfl⟩
    · exact h.agree r hold r' hold' hepoch
    · exact absurd hepoch (Nat.ne_of_lt (h.settled_lt r hold first' (hfirst first' hhead').1))
    · exact absurd hepoch.symm
        (Nat.ne_of_lt (h.settled_lt r' hold' first (hfirst first hhead).1))
    · obtain rfl := Option.some.inj (hhead.symm.trans hhead')
      exact ⟨rfl, rfl⟩

omit [DecidableEq κ] in
lemma Ordered.resume (h : q.Ordered) : q.resume.Ordered :=
  ⟨h.increasing, h.distinct, h.le_epoch, fun r hr => h.settled_le r (List.mem_of_mem_tail hr),
    fun r hr => h.settled_lt r (List.mem_of_mem_tail hr),
    fun r hr r' hr' => h.agree r (List.mem_of_mem_tail hr) r' (List.mem_of_mem_tail hr')⟩

omit [DecidableEq κ] in
lemma Ordered.supersede (h : q.Ordered) : q.supersede.Ordered :=
  ⟨h.increasing, h.distinct, fun o ho => Nat.le_succ_of_le (h.le_epoch o ho),
    fun r hr => Nat.le_succ_of_le (h.settled_le r hr), h.settled_lt, h.agree⟩

lemma Ordered.epochOf_of_mem (h : q.Ordered) (ho : o ∈ q.queue) (hkey : o.key = key) :
    q.epochOf key = o.epoch := by
  obtain ⟨found, hfound⟩ := Option.isSome_iff_exists.mp (has_of_mem ho hkey)
  have hmem : found ∈ q.queue := List.mem_of_find?_eq_some hfound
  have hfoundKey : found.key = key := by simpa using List.find?_some hfound
  obtain rfl := List.inj_on_of_nodup_map h.distinct hmem ho (hfoundKey.trans hkey.symm)
  rw [epochOf, hfound]
  rfl

lemma epochOf_of_not_has (h : q.has key = false) : q.epochOf key = q.epoch + 1 := by
  rw [has, Option.isSome_eq_false_iff, Option.isNone_iff_eq_none] at h
  rw [epochOf, h]
  rfl

/-! ## Every waiter -/

/-- A property of every waiter, in flight or settled, and the operation that it waits for. -/
structure Each (p : ℕ → ω → φ → Prop) (q : SerialQueue κ ω φ ρ π) : Prop where
  waiting : ∀ o ∈ q.queue, ∀ waiter ∈ o.waiters, p o.epoch o.operation waiter
  settled : ∀ r ∈ q.settled, p r.epoch r.operation r.waiter

variable {p p' : ℕ → ω → φ → Prop}

omit [DecidableEq κ] in
lemma Each.mono (h : q.Each p) (hp : ∀ epoch operation waiter, p epoch operation waiter →
    p' epoch operation waiter) : q.Each p' :=
  ⟨fun o ho waiter hw => hp _ _ _ (h.waiting o ho waiter hw), fun r hr => hp _ _ _ (h.settled r hr)⟩

/-- A new waiter joins operations that it has the property with, or comes with a new one. -/
lemma Each.enqueue (h : q.Each p)
    (hjoin : ∀ o ∈ q.queue, o.key = key → p o.epoch o.operation waiter)
    (hnew : q.has key = false → p (q.epoch + 1) operation waiter) :
    (q.enqueue key operation waiter).Each p := by
  unfold SerialQueue.enqueue
  split_ifs with hhas
  · refine ⟨?_, h.settled⟩
    intro o ho w hw
    obtain ⟨old, hold, hepoch, -, hoperation, hwaiters⟩ := mem_join ho
    rw [hepoch, hoperation]
    rcases hwaiters with hsame | ⟨hkey, hmore⟩
    · rw [hsame] at hw
      exact h.waiting old hold w hw
    · rw [hmore] at hw
      rcases List.mem_append.mp hw with hwas | hadded
      · exact h.waiting old hold w hwas
      · rw [List.mem_singleton.mp hadded]
        exact hjoin old hold hkey
  · refine ⟨?_, h.settled⟩
    intro o ho w hw
    rcases List.mem_append.mp ho with hold | hadded
    · exact h.waiting o hold w hw
    · obtain rfl := List.mem_singleton.mp hadded
      rw [List.mem_singleton.mp hw]
      exact hnew (by simpa using hhas)

omit [DecidableEq κ] in
lemma Each.advance (h : q.Each p) (phase : π) : (q.advance phase).Each p := ⟨h.waiting, h.settled⟩

omit [DecidableEq κ] in
lemma Each.settle (h : q.Each p) (result : ρ) : (q.settle result).Each p := by
  constructor
  · rw [queue_settle]
    exact fun o ho => h.waiting o (List.mem_of_mem_tail ho)
  · intro r hr
    rcases mem_settle hr with hold | ⟨first, hhead, waiter, hwaiter, rfl⟩
    · exact h.settled r hold
    · exact h.waiting first (List.mem_of_mem_head? hhead) waiter hwaiter

omit [DecidableEq κ] in
lemma Each.resume (h : q.Each p) : q.resume.Each p :=
  ⟨h.waiting, fun r hr => h.settled r (List.mem_of_mem_tail hr)⟩

omit [DecidableEq κ] in
lemma Each.supersede (h : q.Each p) : q.supersede.Each p := ⟨h.waiting, h.settled⟩

/-! ## Keys and the newest operation -/

/-- Every operation in flight has the key that it is known by. -/
def Keyed (keyOf : ω → κ) (q : SerialQueue κ ω φ ρ π) : Prop :=
  ∀ o ∈ q.queue, o.key = keyOf o.operation

lemma Keyed.enqueue {keyOf : ω → κ} (h : q.Keyed keyOf) :
    (q.enqueue (keyOf operation) operation waiter).Keyed keyOf := by
  intro o ho
  unfold SerialQueue.enqueue at ho
  split_ifs at ho
  · obtain ⟨old, hold, -, hkey, hoperation, -⟩ := mem_join ho
    rw [hkey, hoperation]
    exact h old hold
  · rcases List.mem_append.mp ho with hold | hadded
    · exact h o hold
    · rw [List.mem_singleton.mp hadded]

omit [DecidableEq κ] in
lemma Keyed.settle {keyOf : ω → κ} (h : q.Keyed keyOf) (result : ρ) :
    (q.settle result).Keyed keyOf := by
  intro o ho
  rw [queue_settle] at ho
  exact h o (List.mem_of_mem_tail ho)

/-- A waiter of a kind waits for the newest operation, or has to go on from it. -/
def Newest (kind : φ → Bool) (q : SerialQueue κ ω φ ρ π) : Prop :=
  (∃ o ∈ q.queue, o.epoch = q.epoch ∧ ∃ waiter ∈ o.waiters, kind waiter = true) ∨
    ∃ r ∈ q.settled, r.epoch = q.epoch ∧ kind r.waiter = true

instance (kind : φ → Bool) (q : SerialQueue κ ω φ ρ π) : Decidable (q.Newest kind) :=
  inferInstanceAs (Decidable (_ ∨ _))

omit [DecidableEq κ] in
lemma Each.newest (h : q.Each p) (kind : φ → Bool) :
    q.Each fun epoch operation waiter => p epoch operation waiter ∧
      (kind waiter = true → epoch = q.epoch → q.Newest kind) :=
  ⟨fun o ho waiter hw => ⟨h.waiting o ho waiter hw, fun hkind hepoch =>
      Or.inl ⟨o, ho, hepoch, waiter, hw, hkind⟩⟩,
    fun r hr => ⟨h.settled r hr, fun hkind hepoch => Or.inr ⟨r, hr, hepoch, hkind⟩⟩⟩

lemma Newest.join (h : q.Newest kind) : (q.join key waiter).Newest kind := by
  rcases h with ⟨o, ho, hepoch, w, hw, hkind⟩ | hsettled
  · refine Or.inl ⟨_, List.mem_map.mpr ⟨o, ho, rfl⟩, ?_, w, ?_, hkind⟩
    · split_ifs <;> exact hepoch
    · split_ifs
      · exact List.mem_append_left _ hw
      · exact hw
  · exact Or.inr hsettled

lemma newest_enqueue (hkind : kind waiter = true)
    (hnewest : q.has key = true → ∃ o ∈ q.queue, o.key = key ∧ o.epoch = q.epoch) :
    (q.enqueue key operation waiter).Newest kind := by
  unfold enqueue
  split_ifs with hhas
  · obtain ⟨o, ho, hkey, hepoch⟩ := hnewest hhas
    refine Or.inl ⟨_, List.mem_map.mpr ⟨o, ho, rfl⟩, ?_, waiter, ?_, hkind⟩
    · rw [if_pos hkey]
      exact hepoch
    · rw [if_pos hkey]
      exact List.mem_append_right _ List.mem_cons_self
  · refine Or.inl ⟨_, List.mem_append_right _ List.mem_cons_self, rfl, waiter, ?_, hkind⟩
    exact List.mem_cons_self

omit [DecidableEq κ] in
lemma Newest.settle (h : q.Newest kind) (result : ρ) :
    (q.settle result).Newest kind := by
  rw [Newest, epoch_settle]
  rcases h with ⟨o, ho, hepoch, w, hw, hkind⟩ | ⟨r, hr, hepoch, hkind⟩
  · cases hqueue : q.queue with
    | nil =>
      rw [hqueue] at ho
      cases ho
    | cons first rest =>
      rw [hqueue] at ho
      simp only [SerialQueue.settle, hqueue]
      rcases List.mem_cons.mp ho with rfl | hrest
      · exact Or.inr ⟨_, List.mem_append_right _ (List.mem_map.mpr ⟨w, hw, rfl⟩), hepoch, hkind⟩
      · exact Or.inl ⟨o, hrest, hepoch, w, hw, hkind⟩
  · refine Or.inr ⟨r, ?_, hepoch, hkind⟩
    unfold SerialQueue.settle
    split
    · exact hr
    · exact List.mem_append_left _ hr

omit [DecidableEq κ] in
lemma Newest.resume (h : q.Newest kind)
    (hfirst : ∀ r ∈ q.settled.head?, r.epoch ≠ q.epoch ∨ kind r.waiter = false) :
    q.resume.Newest kind := by
  rcases h with hqueue | ⟨r, hr, hepoch, hkind⟩
  · exact Or.inl hqueue
  · refine Or.inr ⟨r, ?_, hepoch, hkind⟩
    rw [SerialQueue.resume]
    cases hsettled : q.settled with
    | nil =>
      rw [hsettled] at hr
      cases hr
    | cons first rest =>
      rw [hsettled] at hr hfirst
      rcases List.mem_cons.mp hr with rfl | hrest
      · rcases hfirst r rfl with hne | hno
        · exact absurd hepoch hne
        · rw [hkind] at hno
          cases hno
      · exact hrest

end SerialQueue

/-! ## First in, first out -/

namespace QueueEvent

def queuedEpoch : QueueEvent → Option ℕ
  | .queued epoch => some epoch
  | _ => none

def begunEpoch : QueueEvent → Option ℕ
  | .begun epoch => some epoch
  | _ => none

def settledEpoch : QueueEvent → Option ℕ
  | .settled epoch => some epoch
  | _ => none

end QueueEvent

open QueueEvent

/-- The operation that has begun and not settled. -/
def SerialQueue.runningEpoch (q : SerialQueue κ ω φ ρ π) : List ℕ :=
  if q.running.isSome then (q.queue.head?.map QueuedOperation.epoch).toList else []

/-- **The order of the events**: what has been queued has settled or is in flight, in this order, and
what has begun has settled but for one operation at most. -/
structure Fifo (events : List QueueEvent) (q : SerialQueue κ ω φ ρ π) : Prop where
  queued : events.filterMap queuedEpoch =
    events.filterMap settledEpoch ++ q.queue.map QueuedOperation.epoch
  begun : events.filterMap begunEpoch = events.filterMap settledEpoch ++ q.runningEpoch
  runs : q.running.isSome → q.queue ≠ []
  increasing : (events.filterMap queuedEpoch).Pairwise (· < ·)
  le_epoch : ∀ epoch ∈ events.filterMap queuedEpoch, epoch ≤ q.epoch

namespace Fifo

variable {q q' : SerialQueue κ ω φ ρ π} {events : List QueueEvent} {key : κ} {operation : ω}
  {waiter : φ}

omit [DecidableEq κ] in
lemma congr (h : Fifo events q) (hepoch : q.epoch ≤ q'.epoch)
    (hepochs : q'.queue.map QueuedOperation.epoch = q.queue.map QueuedOperation.epoch)
    (hrunning : q'.running.isSome = q.running.isSome) : Fifo events q' := by
  have hhead : q'.queue.head?.map QueuedOperation.epoch =
      q.queue.head?.map QueuedOperation.epoch := by
    rw [← List.head?_map, ← List.head?_map, hepochs]
  constructor
  · rw [hepochs]
    exact h.queued
  · rw [SerialQueue.runningEpoch, hhead, hrunning]
    exact h.begun
  · intro hsome hnil
    rw [hnil] at hepochs
    exact h.runs (hrunning ▸ hsome) (List.map_eq_nil_iff.mp hepochs.symm)
  · exact h.increasing
  · exact fun epoch hmem => Nat.le_trans (h.le_epoch epoch hmem) hepoch

lemma enqueue (h : Fifo events q) :
    Fifo (events ++ if q.has key then [] else [.queued (q.epoch + 1)])
      (q.enqueue key operation waiter) := by
  unfold SerialQueue.enqueue
  split_ifs with hhas
  · rw [List.append_nil]
    exact h.congr (Nat.le_refl _) SerialQueue.map_epoch_join rfl
  · constructor
    · simp [SerialQueue.append, h.queued, List.filterMap_cons, queuedEpoch, settledEpoch]
    · have hrunning : (q.append key operation waiter).runningEpoch = q.runningEpoch := by
        unfold SerialQueue.runningEpoch SerialQueue.append
        dsimp only
        split_ifs with hsome
        · obtain ⟨first, rest, hqueue⟩ := List.exists_cons_of_ne_nil (h.runs hsome)
          rw [hqueue]
          rfl
        · rfl
      simp [hrunning, h.begun, List.filterMap_cons, begunEpoch, settledEpoch]
    · simp [SerialQueue.append]
    · have hqueued : (events ++ [QueueEvent.queued (q.epoch + 1)]).filterMap queuedEpoch =
          events.filterMap queuedEpoch ++ [q.epoch + 1] := by
        simp [queuedEpoch]
      rw [hqueued, List.pairwise_append]
      refine ⟨h.increasing, List.pairwise_singleton _ _, ?_⟩
      exact fun epoch hmem => List.forall_mem_singleton.mpr (Nat.lt_succ_of_le (h.le_epoch epoch
         hmem))
    · intro epoch hmem
      have hcases : epoch ∈ events.filterMap queuedEpoch ∨ epoch = q.epoch + 1 := by
        simpa [List.filterMap_cons, queuedEpoch] using hmem
      rcases hcases with hold | rfl
      · exact Nat.le_succ_of_le (h.le_epoch epoch hold)
      · exact Nat.le_refl _

omit [DecidableEq κ] in
lemma begin {first : QueuedOperation κ ω φ} (h : Fifo events q) (hrunning : q.running = none)
    (hfirst : q.queue.head? = some first) (phase : π) :
    Fifo (events ++ [.begun first.epoch]) (q.advance phase) := by
  constructor
  · simp [SerialQueue.advance, h.queued, List.filterMap_cons, queuedEpoch, settledEpoch]
  · simp [SerialQueue.advance, SerialQueue.runningEpoch, h.begun, List.filterMap_cons, begunEpoch,
      settledEpoch, hrunning, hfirst]
  · intro _ hnil
    rw [show (q.advance phase).queue = q.queue from rfl] at hnil
    rw [hnil] at hfirst
    cases hfirst
  · simpa [List.filterMap_cons, queuedEpoch] using h.increasing
  · rw [show (q.advance phase).epoch = q.epoch from rfl]
    simpa [List.filterMap_cons, queuedEpoch] using h.le_epoch

omit [DecidableEq κ] in
lemma settle {first : QueuedOperation κ ω φ} (h : Fifo events q) (hrunning : q.running.isSome)
    (hfirst : q.queue.head? = some first) (result : ρ) :
    Fifo (events ++ [.settled first.epoch]) (q.settle result) := by
  obtain ⟨rest, hqueue⟩ : ∃ rest, q.queue = first :: rest := List.head?_eq_some_iff.mp hfirst
  have hbegun := h.begun
  rw [SerialQueue.runningEpoch, if_pos hrunning, hfirst] at hbegun
  constructor
  · simp [SerialQueue.settle, hqueue, h.queued, List.filterMap_cons, queuedEpoch, settledEpoch]
  · simp [SerialQueue.settle, SerialQueue.runningEpoch, hqueue, hbegun, List.filterMap_cons,
      begunEpoch, settledEpoch]
  · simp [SerialQueue.settle, hqueue]
  · simpa [List.filterMap_cons, queuedEpoch] using h.increasing
  · rw [SerialQueue.epoch_settle]
    simpa [List.filterMap_cons, queuedEpoch] using h.le_epoch

end Fifo

end JaDesktop
