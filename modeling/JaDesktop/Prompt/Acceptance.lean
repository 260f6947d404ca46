import Mathlib.Data.List.Nodup
import JaDesktop.Prompt.Compiler

/-!
# Which fragments are accepted, and in which order they are compiled

The first loop of the compiler accepts fragments by what they are together, not by their order, and
accepted fragments have identifiers of their own.  So the order that they are compiled in is a total
one on them, and there is only one way to sort them.
-/

namespace JaDesktop.Prompt

open Std

/-! ## The order -/

section Order

variable {α β : Type} {key : α → β} {cmp : β → β → Ordering}

instance [OrientedCmp cmp] : OrientedCmp (comparing key cmp) where
  eq_swap {a b} := @OrientedCmp.eq_swap β cmp _ (key a) (key b)

instance [TransCmp cmp] : TransCmp (comparing key cmp) where
  isLE_trans {a b c} := @TransCmp.isLE_trans β cmp _ (key a) (key b) (key c)

instance : TransCmp compareTo := inferInstanceAs (TransCmp (List.compareLex compare))

instance : LawfulEqCmp compareTo := inferInstanceAs (LawfulEqCmp (List.compareLex compare))

instance : TransCmp order := inferInstanceAs (TransCmp (compareLex _ (compareLex _ _)))

lemma id_eq_of_order {a b : PromptFragment} (hab : (order a b).isLE = true)
    (hba : (order b a).isLE = true) : a.id = b.id := by
  have heq : order a b = .eq := OrientedCmp.isLE_antisymm hab hba
  rw [order, compareLex_eq_eq, compareLex_eq_eq] at heq
  exact @LawfulEqCmp.eq_of_compare JavaString compareTo _ _ _ heq.2.2

/-- The fragments in order. -/
def sorted (fragments : List PromptFragment) : List PromptFragment :=
  fragments.mergeSort fun a b => (order a b).isLE

lemma sorted_perm (fragments : List PromptFragment) : (sorted fragments).Perm fragments :=
  List.mergeSort_perm _ _

lemma pairwise_sorted (fragments : List PromptFragment) :
    (sorted fragments).Pairwise fun a b => (order a b).isLE = true := by
  refine List.pairwise_mergeSort (fun a b c => TransCmp.isLE_trans) (fun a b => ?_) fragments
  cases hab : order a b with
  | lt | eq => rfl
  | gt => rw [OrientedCmp.lt_of_gt hab, Ordering.isLE_lt, Bool.or_true]

/-- **There is one order** of fragments with identifiers of their own. -/
lemma sorted_eq_of_perm {fragments fragments' : List PromptFragment}
    (hids : (fragments.map PromptFragment.id).Nodup) (hperm : fragments'.Perm fragments) :
    sorted fragments' = sorted fragments := by
  refine List.Perm.eq_of_pairwise (fun a b ha hb hab hba => ?_) (pairwise_sorted _)
    (pairwise_sorted _) ((sorted_perm _).trans (hperm.trans (sorted_perm _).symm))
  have ha' : a ∈ fragments := hperm.mem_iff.mp ((sorted_perm _).mem_iff.mp ha)
  have hb' : b ∈ fragments := (sorted_perm _).mem_iff.mp hb
  exact List.inj_on_of_nodup_map hids ha' hb' (id_eq_of_order hab hba)

end Order

/-! ## Acceptance -/

/-- What the first loop asks of the fragments. -/
structure Accepted (trustedSystemEntry : Bool) (fragments : List PromptFragment) : Prop where
  trusted : ∀ fragment ∈ fragments, (decide (fragment.layer = .system) &&
    (!trustedSystemEntry || !fragment.trustedSystem)) = false
  ids : (fragments.map PromptFragment.id).Nodup
  codePoints : (fragments.map fun fragment => codePointCount fragment.text).sum ≤ maxTotalCodePoints
  bytes : (fragments.map fun fragment => utf8Bytes fragment.text).sum ≤ maxTotalUtf8Bytes

variable {trustedSystemEntry : Bool} {fragments fragments' : List PromptFragment}

lemma Accepted.of_perm (h : Accepted trustedSystemEntry fragments)
    (hperm : fragments'.Perm fragments) : Accepted trustedSystemEntry fragments' where
  trusted fragment hmem := h.trusted fragment (hperm.mem_iff.mp hmem)
  ids := ((hperm.map _).nodup_iff).mpr h.ids
  codePoints := ((hperm.map _).sum_nat).le.trans h.codePoints
  bytes := ((hperm.map _).sum_nat).le.trans h.bytes

lemma checkFragment_eq_ok {totals totals' : Totals} {fragment : PromptFragment} :
    checkFragment trustedSystemEntry totals fragment = .ok totals' ↔
      (decide (fragment.layer = .system) &&
        (!trustedSystemEntry || !fragment.trustedSystem)) = false ∧
      fragment.id ∉ totals.ids ∧
      totals.codePoints + codePointCount fragment.text ≤ maxTotalCodePoints ∧
      totals.bytes + utf8Bytes fragment.text ≤ maxTotalUtf8Bytes ∧
      totals' = ⟨fragment.id :: totals.ids, totals.codePoints + codePointCount fragment.text,
        totals.bytes + utf8Bytes fragment.text⟩ := by
  rw [checkFragment]
  simp only [bind_eq_ok, reject_eq_ok, exists_unit, Bool.or_eq_false_iff, decide_eq_false_iff_not,
    gt_iff_lt, Nat.not_lt, Except.ok.injEq, List.contains_eq_mem]
  constructor
  · rintro ⟨htrusted, hid, ⟨hpoints, hbytes⟩, rfl⟩
    exact ⟨htrusted, hid, hpoints, hbytes, rfl⟩
  · rintro ⟨htrusted, hid, hpoints, hbytes, rfl⟩
    exact ⟨htrusted, hid, ⟨hpoints, hbytes⟩, rfl⟩

/-- The loop ends without an error exactly when every fragment may be there, no identifier comes
again, and the totals are within their limits. -/
lemma foldlM_checkFragment_iff (fragments : List PromptFragment) {totals : Totals}
    (hpoints : totals.codePoints ≤ maxTotalCodePoints) (hbytes : totals.bytes ≤ maxTotalUtf8Bytes) :
    (∃ totals', fragments.foldlM (checkFragment trustedSystemEntry) totals = .ok totals') ↔
      (∀ fragment ∈ fragments, (decide (fragment.layer = .system) &&
        (!trustedSystemEntry || !fragment.trustedSystem)) = false) ∧
      (fragments.map PromptFragment.id).Nodup ∧
      (∀ fragment ∈ fragments, fragment.id ∉ totals.ids) ∧
      totals.codePoints + (fragments.map fun fragment => codePointCount fragment.text).sum ≤
        maxTotalCodePoints ∧
      totals.bytes + (fragments.map fun fragment => utf8Bytes fragment.text).sum ≤
        maxTotalUtf8Bytes := by
  induction fragments generalizing totals with
  | nil =>
    refine iff_of_true ⟨totals, rfl⟩ ⟨?_, List.nodup_nil, ?_, hpoints, hbytes⟩
    · exact fun fragment h => absurd h List.not_mem_nil
    · exact fun fragment h => absurd h List.not_mem_nil
  | cons fragment fragments ih =>
    simp only [List.foldlM_cons, bind_eq_ok, checkFragment_eq_ok, List.map_cons, List.sum_cons,
      List.forall_mem_cons, List.nodup_cons]
    constructor
    · rintro ⟨totals', next, ⟨htrusted, hid, hpoints', hbytes', rfl⟩, hrest⟩
      obtain ⟨htrusteds, hids, hfresh, hpoints'', hbytes''⟩ := (ih hpoints' hbytes').mp ⟨_, hrest⟩
      refine ⟨⟨htrusted, htrusteds⟩, ⟨fun hmem => ?_, hids⟩, ⟨hid, fun other hother => ?_⟩, ?_, ?_⟩
      · obtain ⟨other, hother, heq⟩ := List.mem_map.mp hmem
        exact hfresh other hother (heq ▸ List.mem_cons_self)
      · exact fun hmem => hfresh other hother (List.mem_cons_of_mem _ hmem)
      · exact (Nat.add_assoc _ _ _).ge.trans hpoints''
      · exact (Nat.add_assoc _ _ _).ge.trans hbytes''
    · rintro ⟨⟨htrusted, htrusteds⟩, ⟨hnew, hids⟩, ⟨hid, hfresh⟩, hpoints', hbytes'⟩
      rw [← Nat.add_assoc] at hpoints' hbytes'
      have hpoints'' := (Nat.le_add_right _ _).trans hpoints'
      have hbytes'' := (Nat.le_add_right _ _).trans hbytes'
      have hfresh' : ∀ other ∈ fragments, other.id ∉ fragment.id :: totals.ids := by
        intro other hother hmem
        rcases List.mem_cons.mp hmem with heq | hold
        · exact hnew (List.mem_map.mpr ⟨other, hother, heq⟩)
        · exact hfresh other hother hold
      obtain ⟨totals', hrest⟩ := (@ih ⟨fragment.id :: totals.ids,
        totals.codePoints + codePointCount fragment.text,
        totals.bytes + utf8Bytes fragment.text⟩ hpoints'' hbytes'').mpr
        ⟨htrusteds, hids, hfresh', hpoints', hbytes'⟩
      exact ⟨totals', _, ⟨htrusted, hid, hpoints'', hbytes'', rfl⟩, hrest⟩

lemma accepted_iff :
    (∃ totals, fragments.foldlM (checkFragment trustedSystemEntry) {} = .ok totals) ↔
      Accepted trustedSystemEntry fragments := by
  rw [foldlM_checkFragment_iff fragments (Nat.zero_le _) (Nat.zero_le _)]
  constructor
  · rintro ⟨htrusted, hids, -, hpoints, hbytes⟩
    exact ⟨htrusted, hids, (Nat.zero_add _).ge.trans hpoints, (Nat.zero_add _).ge.trans hbytes⟩
  · rintro ⟨htrusted, hids, hpoints, hbytes⟩
    exact ⟨htrusted, hids, fun _ _ => List.not_mem_nil, (Nat.zero_add _).le.trans hpoints,
      (Nat.zero_add _).le.trans hbytes⟩

/-- The first loop does no `int` computation. -/
lemma foldlM_checkFragment_ne_overflow (fragments : List PromptFragment) (totals : Totals) :
    fragments.foldlM (checkFragment trustedSystemEntry) totals ≠ .error .overflow := by
  induction fragments generalizing totals with
  | nil => exact fun h => by cases h
  | cons fragment fragments ih =>
    rw [List.foldlM_cons]
    have hstep : checkFragment trustedSystemEntry totals fragment ≠ .error .overflow := by
      simp only [checkFragment, reject]
      split_ifs <;> simp
    cases hfirst : checkFragment trustedSystemEntry totals fragment with
    | ok totals' => exact ih totals'
    | error fault =>
      rw [hfirst] at hstep
      exact hstep

end JaDesktop.Prompt
