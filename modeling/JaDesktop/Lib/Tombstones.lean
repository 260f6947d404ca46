import Mathlib.Data.Finset.Basic

/-!
# A bounded set that forgets its oldest members

A set beside the queue of its members in the order of their arrival.  A new member goes to the end
of the queue, and while the queue is longer than the limit its oldest member leaves both.
-/

namespace JaDesktop

variable {α : Type*} [DecidableEq α]

/-- A set and the order in which its members came. -/
structure Tombstones (α : Type*) where
  members : Finset α
  order : List α

namespace Tombstones

/-- Drop the oldest members while there are more than `max`. -/
def evict (max : ℕ) (members : Finset α) : List α → Tombstones α
  | [] => ⟨members, []⟩
  | oldest :: order =>
    if max < (oldest :: order).length then evict max (members.erase oldest) order
    else ⟨members, oldest :: order⟩

/-- Record a member. -/
def record (max : ℕ) (t : Tombstones α) (a : α) : Tombstones α :=
  evict max (insert a t.members) (if a ∈ t.members then t.order else t.order ++ [a])

/-- The queue lists the set. -/
structure Lists (members : Finset α) (order : List α) : Prop where
  nodup : order.Nodup
  mem_iff : ∀ a, a ∈ order ↔ a ∈ members

/-- The queue lists the set, and is not longer than the limit. -/
structure Bounded (max : ℕ) (t : Tombstones α) : Prop extends Lists t.members t.order where
  length_le : t.order.length ≤ max

variable {max : ℕ} {members : Finset α} {order : List α} {t : Tombstones α} {a b : α}

lemma Lists.insert (h : Lists members order) (a : α) :
    Lists (insert a members) (if a ∈ members then order else order ++ [a]) := by
  by_cases ha : a ∈ members
  · rw [if_pos ha, Finset.insert_eq_of_mem ha]
    exact h
  · rw [if_neg ha]
    have hnew : a ∉ order := fun hmem => ha ((h.mem_iff a).mp hmem)
    constructor
    · rw [List.nodup_append]
      refine ⟨h.nodup, List.nodup_singleton a, ?_⟩
      intro b hb c hc hbc
      obtain rfl := List.mem_singleton.mp hc
      exact hnew (hbc ▸ hb)
    · intro b
      rw [List.mem_append, List.mem_singleton, Finset.mem_insert, h.mem_iff b, or_comm]

lemma Lists.bounded_evict (h : Lists members order) : Bounded max (evict max members order) := by
  induction order generalizing members with
  | nil => exact ⟨h, Nat.zero_le max⟩
  | cons oldest order ih =>
    rw [evict]
    split
    · apply ih
      constructor
      · exact (List.nodup_cons.mp h.nodup).2
      · intro b
        have hb := h.mem_iff b
        rw [List.mem_cons] at hb
        rw [Finset.mem_erase, ← hb]
        constructor
        · intro hmem
          have hne : b ≠ oldest := fun heq => (List.nodup_cons.mp h.nodup).1 (heq ▸ hmem)
          exact ⟨hne, Or.inr hmem⟩
        · rintro ⟨hne, heq | hmem⟩
          · exact absurd heq hne
          · exact hmem
    · next hlength => exact ⟨h, Nat.not_lt.mp hlength⟩

/-- Recording keeps queue and set together, and within the limit. -/
theorem Bounded.record (h : Bounded max t) (a : α) : Bounded max (t.record max a) :=
  (h.toLists.insert a).bounded_evict

lemma evict_subset (members : Finset α) (order : List α) :
    (evict max members order).members ⊆ members := by
  induction order generalizing members with
  | nil => exact Finset.Subset.refl members
  | cons oldest order ih =>
    rw [evict]
    split
    · exact (ih _).trans (Finset.erase_subset oldest members)
    · exact Finset.Subset.refl members

lemma mem_of_mem_record (h : b ∈ (t.record max a).members) : b = a ∨ b ∈ t.members :=
  Finset.mem_insert.mp (evict_subset _ _ h)

/-! ## The newest members -/

lemma order_evict (members : Finset α) (order : List α) :
    (evict max members order).order = order.drop (order.length - max) := by
  induction order generalizing members with
  | nil => simp [evict]
  | cons oldest order ih =>
    rw [evict]
    split
    · next hlength =>
      have hdrop : (oldest :: order).length - max = (order.length - max) + 1 := by
        simp only [List.length_cons] at hlength ⊢
        omega
      rw [ih, hdrop, List.drop_succ_cons]
    · next hlength =>
      have hdrop : (oldest :: order).length - max = 0 := by omega
      rw [hdrop, List.drop_zero]

lemma record_suffix {newest : List α} (hnewest : newest <:+ t.order) (ha : a ∉ t.members)
    (hlength : newest.length < max) : newest ++ [a] <:+ (t.record max a).order := by
  obtain ⟨old, hold⟩ := hnewest
  rw [record, order_evict, if_neg ha, ← hold]
  have hle : (old ++ newest ++ [a]).length - max ≤ old.length := by
    simp only [List.length_append, List.length_singleton]
    omega
  rw [List.append_assoc, List.drop_append_of_le_length (by simpa using hle)]
  exact List.suffix_append _ _

omit [DecidableEq α] in
lemma bounded_empty (max : ℕ) : Bounded max (⟨∅, []⟩ : Tombstones α) :=
  ⟨⟨List.nodup_nil, fun a => by simp⟩, Nat.zero_le max⟩

end Tombstones

end JaDesktop
