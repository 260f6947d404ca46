import Mathlib.Algebra.Order.Ring.Int
import Mathlib.Data.List.Basic
import Mathlib.Data.List.Infix

/-!
# Occurrences of a pattern and their replacement

`indexOf` is the first position at which a pattern occurs, `replaceEach` replaces the occurrences
from left to right, each after the end of the one before.  What a replacement does to a list is
said by `Edited`: the list is some pieces with the pattern between them, and the result is the same
pieces with the replacement between them.
-/

namespace JaDesktop

variable {α β : Type*} {pattern replacement l before after : List α} {i j : ℕ}

/-- The pattern stands in the list at this position. -/
def OccursAt (pattern l : List α) (i : ℕ) : Prop := pattern <+: l.drop i

instance [DecidableEq α] (pattern l : List α) (i : ℕ) : Decidable (OccursAt pattern l i) :=
  inferInstanceAs (Decidable (_ <+: _))

lemma occursAt_iff (h : pattern ≠ []) :
    OccursAt pattern l i ↔ ∃ p q, l = p ++ (pattern ++ q) ∧ p.length = i := by
  constructor
  · rintro ⟨q, hq⟩
    have hi : i ≤ l.length := by
      by_contra hlt
      rw [List.drop_of_length_le (by omega), List.append_eq_nil_iff] at hq
      exact h hq.1
    exact ⟨l.take i, q, by rw [hq, List.take_append_drop], List.length_take_of_le hi⟩
  · rintro ⟨p, q, rfl, rfl⟩
    rw [OccursAt, List.drop_left]
    exact List.prefix_append _ _

/-! ## The first occurrence -/

section Search

variable [DecidableEq α]

/-- The first position at which the pattern occurs. -/
def indexOf (pattern : List α) : List α → Option ℕ
  | [] => if pattern.isEmpty then some 0 else none
  | a :: l => if pattern.isPrefixOf (a :: l) then some 0 else (indexOf pattern l).map (· + 1)

/-- The first position from `start` on at which the pattern occurs. -/
def indexFrom (pattern l : List α) (start : ℕ) : Option ℕ :=
  (indexOf pattern (l.drop start)).map (· + start)

lemma occursAt_of_indexOf (h : indexOf pattern l = some i) : OccursAt pattern l i := by
  induction l generalizing i with
  | nil =>
    rw [indexOf] at h
    by_cases hempty : pattern.isEmpty = true
    · rw [List.isEmpty_iff] at hempty
      subst hempty
      exact List.nil_prefix
    · rw [if_neg hempty] at h
      cases h
  | cons a l ih =>
    rw [indexOf] at h
    by_cases hprefix : pattern.isPrefixOf (a :: l) = true
    · rw [if_pos hprefix] at h
      cases h
      exact List.isPrefixOf_iff_prefix.mp hprefix
    · rw [if_neg hprefix] at h
      obtain ⟨k, hk, rfl⟩ := Option.map_eq_some_iff.mp h
      exact ih hk

lemma le_of_indexOf (h : indexOf pattern l = some i) (hj : OccursAt pattern l j) : i ≤ j := by
  induction l generalizing i j with
  | nil =>
    rw [indexOf] at h
    split_ifs at h
    cases h
    exact Nat.zero_le j
  | cons a l ih =>
    rw [indexOf] at h
    by_cases hprefix : pattern.isPrefixOf (a :: l) = true
    · rw [if_pos hprefix] at h
      cases h
      exact Nat.zero_le j
    · rw [if_neg hprefix] at h
      obtain ⟨k, hk, rfl⟩ := Option.map_eq_some_iff.mp h
      cases j with
      | zero => exact absurd (List.isPrefixOf_iff_prefix.mpr hj) hprefix
      | succ j => exact Nat.succ_le_succ (ih hk hj)

lemma indexOf_eq_none_iff (hpattern : pattern ≠ []) :
    indexOf pattern l = none ↔ ∀ i, ¬OccursAt pattern l i := by
  constructor
  · intro h i hi
    induction l generalizing i with
    | nil =>
      rw [OccursAt, List.drop_nil, List.prefix_nil] at hi
      exact hpattern hi
    | cons a l ih =>
      rw [indexOf] at h
      by_cases hprefix : pattern.isPrefixOf (a :: l) = true
      · rw [if_pos hprefix] at h
        cases h
      · rw [if_neg hprefix, Option.map_eq_none_iff] at h
        cases i with
        | zero => exact hprefix (List.isPrefixOf_iff_prefix.mpr hi)
        | succ i => exact ih h i hi
  · intro h
    cases hfound : indexOf pattern l with
    | none => rfl
    | some i => exact absurd (occursAt_of_indexOf hfound) (h i)

lemma indexFrom_eq_none_iff (hpattern : pattern ≠ []) {start : ℕ} :
    indexFrom pattern l start = none ↔ ∀ i, start ≤ i → ¬OccursAt pattern l i := by
  rw [indexFrom, Option.map_eq_none_iff, indexOf_eq_none_iff hpattern]
  constructor
  · intro h i hi hoccurs
    refine h (i - start) ?_
    rwa [OccursAt, List.drop_drop, Nat.add_sub_cancel' hi]
  · intro h i hoccurs
    rw [OccursAt, List.drop_drop] at hoccurs
    exact h (start + i) (Nat.le_add_right _ _) hoccurs

/-! ## Replacement -/

/-- The occurrences of the pattern replaced, from left to right, after `skip` elements are passed
over. -/
def replaceSkipping (pattern replacement : List α) : ℕ → List α → List α
  | _, [] => []
  | skip + 1, _ :: l => replaceSkipping pattern replacement skip l
  | 0, a :: l =>
    if pattern.isPrefixOf (a :: l) then
      replacement ++ replaceSkipping pattern replacement (pattern.length - 1) l
    else a :: replaceSkipping pattern replacement 0 l

/-- Every occurrence of the pattern replaced. -/
def replaceEach (pattern replacement l : List α) : List α := replaceSkipping pattern replacement 0 l

lemma replaceSkipping_eq (skip : ℕ) :
    replaceSkipping pattern replacement skip l = replaceEach pattern replacement (l.drop skip) := by
  induction l generalizing skip with
  | nil => cases skip <;> rfl
  | cons a l ih =>
    cases skip with
    | zero => rfl
    | succ skip =>
      rw [replaceSkipping, List.drop_succ_cons]
      exact ih skip

lemma replaceEach_of_isPrefixOf (hpattern : pattern ≠ []) (h : pattern.isPrefixOf l = true) :
    replaceEach pattern replacement l =
      replacement ++ replaceEach pattern replacement (l.drop pattern.length) := by
  have hpos := List.length_pos_of_ne_nil hpattern
  cases l with
  | nil =>
    rw [List.isPrefixOf_iff_prefix, List.prefix_nil] at h
    exact absurd h hpattern
  | cons a l =>
    obtain ⟨k, hk⟩ : ∃ k, pattern.length = k + 1 := ⟨pattern.length - 1, by omega⟩
    rw [replaceEach, replaceSkipping, if_pos h, replaceSkipping_eq, hk, Nat.add_sub_cancel,
      List.drop_succ_cons]

lemma replaceEach_cons {a : α} (h : ¬pattern.isPrefixOf (a :: l) = true) :
    replaceEach pattern replacement (a :: l) = a :: replaceEach pattern replacement l := by
  rw [replaceEach, replaceSkipping, if_neg h]
  rfl

end Search

/-! ## Edits -/

/-- The second list is the first one with some occurrences of the pattern, at least one, replaced:
pieces with the pattern between them became the same pieces with the replacement between them. -/
def Edited (pattern replacement before after : List α) : Prop :=
  ∃ pieces : List (List α), 2 ≤ pieces.length ∧ before = pattern.intercalate pieces ∧
    after = replacement.intercalate pieces

lemma edited_one (p q : List α) :
    Edited pattern replacement (p ++ (pattern ++ q)) (p ++ (replacement ++ q)) := by
  refine ⟨[p, q], Nat.le_refl _, ?_, ?_⟩
  · rw [List.intercalate_cons_cons, List.intercalate_singleton, List.append_assoc]
  · rw [List.intercalate_cons_cons, List.intercalate_singleton, List.append_assoc]

/-- The pieces that `replaceEach` leaves as they are. -/
lemma exists_pieces [DecidableEq α] (hpattern : pattern ≠ []) (l : List α) :
    ∃ pieces : List (List α), pieces ≠ [] ∧ l = pattern.intercalate pieces ∧
      replaceEach pattern replacement l = replacement.intercalate pieces ∧
      ((∃ i, OccursAt pattern l i) → 2 ≤ pieces.length) := by
  induction hn : l.length using Nat.strong_induction_on generalizing l with
  | _ n ih =>
    by_cases hprefix : pattern.isPrefixOf l = true
    · -- an occurrence at the head: an empty piece, and the pieces of what follows it
      obtain ⟨rest, rfl⟩ := List.isPrefixOf_iff_prefix.mp hprefix
      have hpos := List.length_pos_of_ne_nil hpattern
      have hlength : rest.length < n := by
        rw [← hn, List.length_append]
        omega
      obtain ⟨pieces, hne, hbefore, hafter, -⟩ := ih rest.length hlength rest rfl
      obtain ⟨piece, pieces, rfl⟩ := List.exists_cons_of_ne_nil hne
      refine ⟨[] :: piece :: pieces, List.cons_ne_nil _ _, ?_, ?_, ?_⟩
      · rw [List.intercalate_cons_cons, List.nil_append, ← hbefore]
      · rw [replaceEach_of_isPrefixOf hpattern hprefix, List.drop_left, List.intercalate_cons_cons,
          List.nil_append, ← hafter]
      · intro _
        simp
    · cases l with
      | nil =>
        refine ⟨[[]], List.cons_ne_nil _ _, rfl, rfl, ?_⟩
        rintro ⟨i, hi⟩
        rw [OccursAt, List.drop_nil, List.prefix_nil] at hi
        exact absurd hi hpattern
      | cons a l =>
        -- the head belongs to the first piece of the rest
        have hlength : l.length < n := by
          rw [← hn, List.length_cons]
          omega
        obtain ⟨pieces, hne, hbefore, hafter, hmany⟩ := ih l.length hlength l rfl
        obtain ⟨piece, pieces, rfl⟩ := List.exists_cons_of_ne_nil hne
        have hcons : ∀ sep : List α,
            sep.intercalate ((a :: piece) :: pieces) = a :: sep.intercalate (piece :: pieces) := by
          intro sep
          cases pieces with
          | nil => rw [List.intercalate_singleton, List.intercalate_singleton]
          | cons next pieces => rw [List.intercalate_cons_cons, List.intercalate_cons_cons]; rfl
        refine ⟨(a :: piece) :: pieces, List.cons_ne_nil _ _, ?_, ?_, ?_⟩
        · rw [hcons, ← hbefore]
        · rw [replaceEach_cons hprefix, hcons, ← hafter]
        · rintro ⟨i, hi⟩
          cases i with
          | zero => exact absurd (List.isPrefixOf_iff_prefix.mpr hi) hprefix
          | succ i =>
            have hrest := hmany ⟨i, hi⟩
            rwa [List.length_cons] at hrest ⊢

lemma edited_replaceEach [DecidableEq α] (hpattern : pattern ≠ []) (h : OccursAt pattern l i) :
    Edited pattern replacement l (replaceEach pattern replacement l) := by
  obtain ⟨pieces, -, hbefore, (hafter : replaceEach pattern replacement l = _), hmany⟩ :=
    exists_pieces hpattern l
  exact ⟨pieces, hmany ⟨i, h⟩, hbefore, hafter⟩

lemma flatMap_intercalate (f : α → List β) (sep : List α) (pieces : List (List α)) :
    (sep.intercalate pieces).flatMap f =
      (sep.flatMap f).intercalate (pieces.map fun piece => piece.flatMap f) := by
  induction pieces with
  | nil => rfl
  | cons piece pieces ih =>
    cases pieces with
    | nil =>
      rw [List.intercalate_singleton, List.map_cons, List.map_nil, List.intercalate_singleton]
    | cons next pieces =>
      rw [List.intercalate_cons_cons, List.map_cons, List.map_cons, List.intercalate_cons_cons,
        List.flatMap_append, List.flatMap_append, ih, List.map_cons]

lemma Edited.flatMap (h : Edited pattern replacement before after) (f : α → List β) :
    Edited (pattern.flatMap f) (replacement.flatMap f) (before.flatMap f) (after.flatMap f) := by
  obtain ⟨pieces, hmany, rfl, rfl⟩ := h
  refine ⟨pieces.map fun piece => piece.flatMap f, ?_, ?_, ?_⟩
  · rwa [List.length_map]
  · exact flatMap_intercalate f _ _
  · exact flatMap_intercalate f _ _

lemma length_intercalate (sep piece : List α) (pieces : List (List α)) :
    (sep.intercalate (piece :: pieces)).length =
      piece.length + (pieces.map List.length).sum + pieces.length * sep.length := by
  induction pieces generalizing piece with
  | nil => simp
  | cons next pieces ih =>
    rw [List.intercalate_cons_cons, List.length_append, List.length_append, ih, List.map_cons,
      List.sum_cons, List.length_cons, Nat.add_mul]
    omega

lemma Edited.ne (h : Edited pattern replacement before after) (hne : pattern ≠ replacement) :
    before ≠ after := by
  obtain ⟨pieces, hmany, rfl, rfl⟩ := h
  intro heq
  match pieces, hmany with
  | piece :: next :: pieces, _ =>
    have hlength : pattern.length = replacement.length := by
      have hsame := congrArg List.length heq
      rw [length_intercalate, length_intercalate, List.length_cons] at hsame
      have hmul : (pieces.length + 1) * pattern.length = (pieces.length + 1) * replacement.length := by
        omega
      exact Nat.eq_of_mul_eq_mul_left (Nat.succ_pos _) hmul
    rw [List.intercalate_cons_cons, List.intercalate_cons_cons, List.append_assoc,
      List.append_assoc, List.append_cancel_left_eq] at heq
    exact hne (List.append_inj heq hlength).1

end JaDesktop
