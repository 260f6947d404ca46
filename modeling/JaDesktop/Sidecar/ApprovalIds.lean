import JaDesktop.Sidecar.Protocol
import Mathlib.Data.List.Infix
import Mathlib.Data.List.Nodup
import Mathlib.Tactic.Linarith

/-!
# Identities of the approvals of a runtime

Every ASK pause of a turn takes a new approval id: the tail of the turn's own id, an underscore
and a number that the whole runtime counts up.  The result is cut to the 101 units that the wire
admits.  This file says exactly which pauses lose their number to the cut.
-/

namespace JaDesktop.Sidecar

/-! ## Names with a number, cut to a length -/

section Cut

variable {α : Type*} {n : ℕ} {sep : α} {s t d e : List α}

/-- The name `t` fills the length that the cut leaves, with what the cut leaves of another name. -/
def Shadows (n : ℕ) (sep : α) (t s d : List α) : Prop :=
  t.length = n ∧ t = s ++ sep :: d.take (n - 1 - s.length)

lemma take_append_cons (h : s.length ≤ n) :
    (s ++ sep :: d).take n = s ++ (sep :: d).take (n - s.length) := by
  rw [List.take_append, List.take_of_length_le h]

lemma take_cons_of_lt (h : s.length < n) :
    (s ++ sep :: d).take n = s ++ sep :: d.take (n - 1 - s.length) := by
  rw [take_append_cons h.le]
  obtain ⟨k, hk⟩ : ∃ k, n - s.length = k + 1 := ⟨n - s.length - 1, by omega⟩
  have hk' : n - 1 - s.length = k := by omega
  rw [hk, hk', List.take_succ_cons]

lemma shadows_of_cut_eq (hs : s.length < t.length) (ht : t.length ≤ n) (hd : sep ∉ d)
    (h : (s ++ sep :: d).take n = (t ++ sep :: e).take n) : Shadows n sep t s d := by
  rw [take_cons_of_lt (by omega), take_append_cons ht] at h
  -- the longer name starts with the shorter one, and the separator comes next
  obtain ⟨r, hr⟩ : ∃ r, t = s ++ r :=
    (List.prefix_of_prefix_length_le ⟨_, h⟩ (List.prefix_append t _) hs.le).imp fun r hr => hr.symm
  subst hr
  rw [List.append_assoc, List.append_cancel_left_eq] at h
  cases r with
  | nil => simp at hs
  | cons u r =>
    rw [List.cons_append, List.cons.injEq] at h
    obtain ⟨rfl, htake⟩ := h
    simp only [List.length_append, List.length_cons] at ht hs htake
    -- what follows is cut before the second separator, for the digits have none
    have hrest : n - (s.length + (r.length + 1)) = 0 := by
      by_contra hne
      obtain ⟨k, hk⟩ := Nat.exists_eq_succ_of_ne_zero hne
      rw [hk, Nat.succ_eq_add_one, List.take_succ_cons] at htake
      have hmem : sep ∈ d.take (n - 1 - s.length) := by
        rw [htake]
        simp
      exact hd (List.mem_of_mem_take hmem)
    rw [hrest, List.take_zero, List.append_nil] at htake
    refine ⟨?_, by rw [htake]⟩
    rw [List.length_append, List.length_cons]
    omega

lemma cut_eq_of_shadows (h : Shadows n sep t s d) :
    (s ++ sep :: d).take n = (t ++ sep :: e).take n := by
  obtain ⟨hlength, ht⟩ := h
  have hs : s.length < n := by
    rw [← hlength, ht, List.length_append, List.length_cons]
    omega
  rw [take_cons_of_lt hs, take_append_cons hlength.le, hlength, Nat.sub_self, List.take_zero,
    List.append_nil, ← ht]

/-- **Exactly which names agree after the cut**: those of one turn whose numbers agree as far as
the cut lets them stand, and those of a turn whose own name is what the cut leaves of another. -/
lemma cut_eq_iff (hs : s.length ≤ n) (ht : t.length ≤ n) (hd : sep ∉ d) (he : sep ∉ e) :
    (s ++ sep :: d).take n = (t ++ sep :: e).take n ↔
      (s = t ∧ d.take (n - 1 - s.length) = e.take (n - 1 - s.length)) ∨
        Shadows n sep t s d ∨ Shadows n sep s t e := by
  constructor
  · intro h
    rcases lt_trichotomy s.length t.length with hlt | heq | hgt
    · exact Or.inr (Or.inl (shadows_of_cut_eq hlt ht hd h))
    · left
      rw [take_append_cons hs, take_append_cons ht] at h
      obtain ⟨rfl, hrest⟩ := List.append_inj h heq
      refine ⟨rfl, ?_⟩
      obtain hfull | hroom := hs.eq_or_lt
      · have hzero : n - 1 - s.length = 0 := by omega
        rw [hzero, List.take_zero, List.take_zero]
      · obtain ⟨k, hk⟩ : ∃ k, n - s.length = k + 1 := ⟨n - s.length - 1, by omega⟩
        rw [hk, List.take_succ_cons, List.take_succ_cons, List.cons.injEq] at hrest
        have hk' : n - 1 - s.length = k := by omega
        rw [hk']
        exact hrest.2
    · exact Or.inr (Or.inr (shadows_of_cut_eq hgt hs he h.symm))
  · rintro (⟨rfl, htake⟩ | h | h)
    · obtain hfull | hroom := hs.eq_or_lt
      · rw [take_append_cons hs, take_append_cons hs, hfull, Nat.sub_self, List.take_zero,
          List.take_zero]
      · rw [take_cons_of_lt hroom, take_cons_of_lt hroom, htake]
    · exact cut_eq_of_shadows h
    · exact (cut_eq_of_shadows h).symm

end Cut

/-! ## The runtime's counter -/

/-- What `nextApprovalId` keeps of an `AgentScopeTurnRuntime`: `approvalSequence`, an `AtomicLong`
that starts at zero. -/
structure ApprovalCounter where
  approvalSequence : Int64 := 0

/-- `approvalSequence.incrementAndGet()`. -/
def incrementAndGet : StateM ApprovalCounter Int64 :=
  modifyGet fun counter =>
    let next := counter.approvalSequence + 1
    (next, { counter with approvalSequence := next })

variable (turnId : DomainId "turn_")

/-- The tail of a turn's id that the approval id carries on. -/
def approvalSuffix : JavaString :=
  if (java "turn_").isPrefixOf turnId.val then turnId.val.drop (java "turn_").length
  else turnId.val

/-- `AgentScopeTurnRuntime.nextApprovalId` for a run of a turn. -/
def nextApprovalId : StateM ApprovalCounter JavaString := do
  let suffix := approvalSuffix turnId
  let sequence ← incrementAndGet
  let candidate := java "appr_" ++ suffix ++ java "_" ++ java (toString sequence.toInt)
  return if candidate.length ≤ 101 then candidate else candidate.take 101

/-- The ids of a sequence of ASK pauses of a new runtime, each of some turn. -/
def approvalIds (turns : List (DomainId "turn_")) : List JavaString :=
  ((turns.mapM nextApprovalId).run {}).1

/-- The digits of a counter value. -/
def digits (n : ℕ) : JavaString := java (toString n)

/-- The id that a pause of a turn takes with a number. -/
def approvalIdOf (n : ℕ) : JavaString :=
  java "appr_" ++ (approvalSuffix turnId ++ 0x5F :: digits n).take 96

lemma nextApprovalId_run {k : ℕ} (hk : k + 1 < 2 ^ 63) (turnId : DomainId "turn_") :
    (nextApprovalId turnId).run ⟨Int64.ofNat k⟩ =
      (approvalIdOf turnId (k + 1), ⟨Int64.ofNat (k + 1)⟩) := by
  have hnext : Int64.ofNat k + 1 = Int64.ofNat (k + 1) := (Int64.ofNat_add k 1).symm
  have htext : toString (Int64.ofNat (k + 1)).toInt = toString (k + 1) := by
    rw [Int64.toInt_ofNat_of_lt hk]
    rfl
  have happr : (java "appr_").length = 5 := by decide
  have hsep : java "_" = [0x5F] := by decide
  have hcut : ∀ tail : JavaString,
      (if (java "appr_" ++ tail).length ≤ 101 then java "appr_" ++ tail
        else (java "appr_" ++ tail).take 101) = java "appr_" ++ tail.take 96 := by
    intro tail
    by_cases hfits : (java "appr_" ++ tail).length ≤ 101
    · rw [if_pos hfits]
      rw [List.length_append, happr] at hfits
      rw [List.take_of_length_le (by omega)]
    · rw [if_neg hfits, List.take_append, happr, List.take_of_length_le (by omega)]
  have hid := hcut (approvalSuffix turnId ++ 0x5F :: digits (k + 1))
  show ((if _ then _ else _), (_ : ApprovalCounter)) = _
  rw [hnext, htext, hsep, approvalIdOf, ← hid]
  simp only [digits, List.append_assoc, List.cons_append, List.nil_append]
  rfl

/-- The pause at position `i` of a run takes the number `i + 1`. -/
lemma approvalIds_eq {turns : List (DomainId "turn_")} (h : turns.length < 2 ^ 63) :
    approvalIds turns = turns.mapIdx fun i turnId => approvalIdOf turnId (i + 1) := by
  have hrun : ∀ (turns : List (DomainId "turn_")) (k : ℕ), turns.length + k < 2 ^ 63 →
      ((turns.mapM nextApprovalId).run ⟨Int64.ofNat k⟩).1 =
        turns.mapIdx fun i turnId => approvalIdOf turnId (i + k + 1) := by
    intro turns
    induction turns with
    | nil =>
      intro k _
      rfl
    | cons turnId turns ih =>
      intro k hk
      rw [List.length_cons] at hk
      rw [List.mapM_cons, List.mapIdx_cons, StateT.run_bind, nextApprovalId_run (by omega)]
      have hrest := ih (k + 1) (by omega)
      show approvalIdOf turnId (k + 1) ::
          ((turns.mapM nextApprovalId).run ⟨Int64.ofNat (k + 1)⟩).1 = _
      rw [hrest, Nat.zero_add]
      refine congrArg _ (congrArg (fun f => List.mapIdx f turns) ?_)
      funext i turnId
      rw [Nat.add_right_comm i 1 k, Nat.add_assoc i k 1]
  exact hrun turns 0 (by simpa using h)

/-! ## The digits and the tail -/

lemma digits_eq (n : ℕ) : digits n = (Nat.toDigits 10 n).flatMap utf16Char := by
  rw [digits, java, utf16Encode, Nat.toString_eq_repr, Nat.toList_repr]

lemma digits_injective : Function.Injective digits := by
  intro n m h
  have htext : toString n = toString m := java_inj.mp h
  have hdigits : Nat.toDigits 10 n = Nat.toDigits 10 m := by
    have hlist := congrArg String.toList htext
    rwa [Nat.toString_eq_repr, Nat.toString_eq_repr, Nat.toList_repr, Nat.toList_repr] at hlist
  have hvalue := congrArg (fun ds => Nat.ofDigitChars 10 ds 0) hdigits
  simpa using hvalue

/-- The digits of a number are ASCII digits, so they belong to the tail class. -/
lemma isDigit_of_mem_digits {n : ℕ} {u : UInt16} (h : u ∈ digits n) :
    0x30 ≤ u.toNat ∧ u.toNat ≤ 0x39 := by
  rw [digits_eq, List.mem_flatMap] at h
  obtain ⟨c, hc, hu⟩ := h
  have hdigit : c.isDigit = true := Nat.isDigit_of_mem_toDigits (by decide) (by decide) hc
  simp only [Char.isDigit, Bool.and_eq_true, decide_eq_true_eq, ge_iff_le,
    UInt32.le_iff_toNat_le] at hdigit
  have hval : c.val.toNat = c.toNat := rfl
  have hlow : '0'.val.toNat = 0x30 := rfl
  have hhigh : '9'.val.toNat = 0x39 := rfl
  have hsmall : c.toNat < 0x10000 := by omega
  have hunit : (UInt16.ofNat c.toNat).toNat = c.toNat := UInt16.toNat_ofNat_of_lt hsmall
  rw [utf16Char, if_pos hsmall, List.mem_singleton] at hu
  subst hu
  omega

lemma not_mem_digits (n : ℕ) : (0x5F : UInt16) ∉ digits n := by
  intro h
  have hrange := isDigit_of_mem_digits h
  have hvalue : (0x5F : UInt16).toNat = 0x5F := rfl
  omega

lemma isTailUnit_of_mem_digits {n : ℕ} {u : UInt16} (h : u ∈ digits n) : isTailUnit u = true := by
  obtain ⟨hlow, hhigh⟩ := isDigit_of_mem_digits h
  have h30 : (0x30 : UInt16).toNat = 0x30 := rfl
  have h39 : (0x39 : UInt16).toNat = 0x39 := rfl
  have hdigit : (0x30 ≤ u && u ≤ 0x39) = true := by
    rw [Bool.and_eq_true, decide_eq_true_eq, decide_eq_true_eq, UInt16.le_iff_toNat_le,
      UInt16.le_iff_toNat_le]
    omega
  rw [isTailUnit, isAlphanumeric, hdigit]
  simp

lemma matchesTail_approvalSuffix (turnId : DomainId "turn_") :
    matchesTail (approvalSuffix turnId) = true := by
  have h := turnId.property
  rw [matchesHeadTail, Bool.and_eq_true] at h
  rw [approvalSuffix, if_pos h.1]
  exact h.2

lemma length_of_matchesTail {s : JavaString} (h : matchesTail s = true) :
    0 < s.length ∧ s.length ≤ 96 := by
  cases s with
  | nil => cases h
  | cons first rest =>
    simp only [matchesTail, Bool.and_eq_true, decide_eq_true_eq] at h
    rw [List.length_cons]
    omega

lemma matchesTail_take {s more : JavaString} (h : matchesTail s = true)
    (hmore : ∀ u ∈ more, isTailUnit u = true) : matchesTail ((s ++ more).take 96) = true := by
  cases s with
  | nil => cases h
  | cons first rest =>
    simp only [matchesTail, Bool.and_eq_true, decide_eq_true_eq, List.all_eq_true] at h
    simp only [List.cons_append, List.take_succ_cons, matchesTail, Bool.and_eq_true,
      decide_eq_true_eq, List.all_eq_true]
    refine ⟨⟨h.1.1, List.length_take_le 95 _⟩, ?_⟩
    intro u hu
    rcases List.mem_append.mp (List.mem_of_mem_take hu) with hu | hu
    · exact h.2 u hu
    · exact hmore u hu

lemma matches_approvalIdOf (turnId : DomainId "turn_") (n : ℕ) :
    matchesHeadTail "appr_" (approvalIdOf turnId n) = true := by
  rw [matchesHeadTail, Bool.and_eq_true, List.isPrefixOf_iff_prefix, approvalIdOf,
    List.drop_left]
  refine ⟨List.prefix_append _ _, matchesTail_take (matchesTail_approvalSuffix turnId) ?_⟩
  intro u hu
  rcases List.mem_cons.mp hu with rfl | hu
  · decide
  · exact isTailUnit_of_mem_digits hu

/-! ## Distinctness -/

/-- Two pauses, of turns with the tails `s` and `t` and with the numbers `n` and `m`, whose
numbers the cut makes useless: either they are pauses of one turn and the numbers agree in the
`95 - s.length` digits that the cut leaves, or one tail has all the 96 units and is the other tail,
an underscore and the digits that the cut leaves of the other number. -/
def NumbersLost (s : JavaString) (n : ℕ) (t : JavaString) (m : ℕ) : Prop :=
  (s = t ∧ (digits n).take (95 - s.length) = (digits m).take (95 - s.length)) ∨
    Shadows 96 0x5F t s (digits n) ∨ Shadows 96 0x5F s t (digits m)

instance (s : JavaString) (n : ℕ) (t : JavaString) (m : ℕ) : Decidable (NumbersLost s n t m) :=
  inferInstanceAs (Decidable ((_ ∧ _) ∨ (_ ∧ _) ∨ (_ ∧ _)))

lemma approvalIdOf_eq_iff (turn other : DomainId "turn_") (n m : ℕ) :
    approvalIdOf turn n = approvalIdOf other m ↔
      NumbersLost (approvalSuffix turn) n (approvalSuffix other) m := by
  rw [approvalIdOf, approvalIdOf, List.append_cancel_left_eq]
  exact cut_eq_iff (length_of_matchesTail (matchesTail_approvalSuffix turn)).2
    (length_of_matchesTail (matchesTail_approvalSuffix other)).2 (not_mem_digits n)
    (not_mem_digits m)

/-- **The ids of the ASK pauses of a runtime are pairwise distinct and well formed exactly when no
two of the pauses have lost their numbers to the cut.** -/
theorem approvalIds_distinct_iff (turns : List (DomainId "turn_")) (h : turns.length < 2 ^ 63) :
    ((approvalIds turns).Nodup ∧ ∀ id ∈ approvalIds turns, matchesHeadTail "appr_" id = true) ↔
      ∀ i j, (hij : i < j) → (hj : j < turns.length) →
        ¬NumbersLost (approvalSuffix turns[i]) (i + 1) (approvalSuffix turns[j]) (j + 1) := by
  have hform : ∀ id ∈ approvalIds turns, matchesHeadTail "appr_" id = true := by
    rw [approvalIds_eq h]
    intro id hid
    obtain ⟨i, hi, rfl⟩ := List.mem_mapIdx.mp hid
    exact matches_approvalIdOf _ _
  rw [and_iff_left hform, List.Nodup, List.pairwise_iff_getElem, approvalIds_eq h]
  constructor
  · intro hdistinct i j hij hj hlost
    refine hdistinct i j (by rw [List.length_mapIdx]; omega) (by rwa [List.length_mapIdx]) hij ?_
    rw [List.getElem_mapIdx, List.getElem_mapIdx]
    exact (approvalIdOf_eq_iff _ _ _ _).mpr hlost
  · intro hkept i j hi hj hij heq
    rw [List.length_mapIdx] at hj
    rw [List.getElem_mapIdx, List.getElem_mapIdx] at heq
    exact hkept i j hij hj ((approvalIdOf_eq_iff _ _ _ _).mp heq)

/-- Two turns with short ids. -/
def shortTurns : List (DomainId "turn_") :=
  [⟨java "turn_a", by decide⟩, ⟨java "turn_a", by decide⟩]

/-- Two pauses of one turn with a short id have different ids. -/
theorem approvalIds_of_shortTurns : (approvalIds shortTurns).Nodup :=
  ((approvalIds_distinct_iff shortTurns (by decide)).mpr fun i j hij hj => by
    have hlength : j < 2 := hj
    obtain rfl : j = 1 := by omega
    obtain rfl : i = 0 := by omega
    have hkept : ¬NumbersLost (java "a") 1 (java "a") 2 := by decide +kernel
    exact hkept).1

/-- The longest turn id that `TurnId` accepts. -/
def longTurn : DomainId "turn_" :=
  ⟨java "turn_" ++ List.replicate 96 0x61, by decide +kernel⟩

/-- Two pauses of a turn with the longest id have the same approval id. -/
theorem approvalIds_of_longTurn : ¬(approvalIds [longTurn, longTurn]).Nodup := by
  decide +kernel

end JaDesktop.Sidecar
