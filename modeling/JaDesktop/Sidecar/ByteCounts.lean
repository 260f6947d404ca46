import JaDesktop.Sidecar.EventTerminal

/-!
# Counting bytes up to a cap

`utf8BytesAtMost` as it is written, over an index and in `int`s: no sum overflows and no index is out
of range, and the count ends at the first lone surrogate or above the cap.  `bounded` cuts a
well-formed text at the last place before 512 units that is not inside a pair.
-/

namespace JaDesktop.Sidecar.EventNormalizerPolicy

/-! ## The loop over an index -/

/-- `a + b`, where it is an `int`. -/
def plus (a b : ℕ) : Option ℕ := if a + b ≤ maxInteger then some (a + b) else none

/-- The increment of one turn of the loop and the index of its last unit; nothing where `charAt` has
no unit. -/
def increment (value : JavaString) (index : ℕ) : Option (Except NormalizeFailure (ℕ × ℕ)) :=
  value[index]?.bind fun character =>
    if isHighSurrogate character then
      (plus index 1).bind fun next =>
        if value.length ≤ next then some (.error .argument)
        else value[next]?.map fun low =>
          if isLowSurrogate low then .ok (4, next) else .error .argument
    else if isLowSurrogate character then some (.error .argument)
    else some (.ok (unitBytes character, index))

/-- So many turns of the loop of `utf8BytesAtMost`; nothing where a sum of `int`s overflows. -/
def scanBytes (value : JavaString) (cap : ℕ) : ℕ → ℕ → ℕ → Option (Except NormalizeFailure ℕ)
  | 0, _, _ => none
  | turns + 1, index, bytes =>
    if index < value.length then
      match increment value index with
      | none => none
      | some (.error failure) => some (.error failure)
      | some (.ok (more, last)) =>
        -- The test is made in `long`s.
        if bytes + more > cap then
          if cap = maxInteger then some (.ok maxInteger) else (plus cap 1).map .ok
        else (plus bytes more).bind fun bytes =>
          (plus last 1).bind fun next => scanBytes value cap turns next bytes
    else some (.ok bytes)

variable {value rest : JavaString} {cap bytes index turns : ℕ}

lemma plus_of_le {a b : ℕ} (h : a + b ≤ maxInteger) : plus a b = some (a + b) := if_pos h

lemma scanBytes_count {more last : ℕ} (hcap : cap ≤ maxInteger) (hindex : index < value.length)
    (hlast : last + 1 ≤ maxInteger) (hmore : increment value index = some (.ok (more, last))) :
    scanBytes value cap (turns + 1) index bytes =
      if bytes + more > cap then some (.ok (overCap cap))
      else scanBytes value cap turns (last + 1) (bytes + more) := by
  rw [scanBytes, if_pos hindex, hmore]
  dsimp only
  split_ifs with hover htop
  · rw [overCap, if_pos htop]
  · rw [overCap, if_neg htop, plus_of_le (by omega)]
    rfl
  · rw [plus_of_le (by omega), Option.bind_some, plus_of_le hlast, Option.bind_some]

/-- **Enough turns**: the loop counts the units from its index on. -/
lemma scanBytes_eq (hlength : value.length ≤ maxInteger) (hcap : cap ≤ maxInteger)
    (hindex : index ≤ value.length) (hturns : value.length < turns + index) :
    scanBytes value cap turns index bytes =
      some (countAtMost cap bytes (value.drop index)) := by
  induction turns generalizing index bytes with
  | zero => omega
  | succ turns ih =>
    rcases Nat.lt_or_eq_of_le hindex with hlt | rfl
    · have hunit : value[index]? = some value[index] := List.getElem?_eq_getElem hlt
      rw [List.drop_eq_getElem_cons hlt, countAtMost.eq_def]
      dsimp only
      by_cases hhigh : isHighSurrogate value[index] = true
      · rw [if_pos hhigh]
        have hnext : increment value index = if value.length ≤ index + 1 then some (.error .argument)
            else value[index + 1]?.map fun low =>
              if isLowSurrogate low then .ok (4, index + 1) else .error .argument := by
          rw [increment, hunit, Option.bind_some, if_pos hhigh, plus_of_le (by omega),
            Option.bind_some]
        rcases Nat.lt_or_ge (index + 1) value.length with hlast | hlast
        · rw [List.getElem?_eq_getElem hlast, if_neg (by omega), Option.map_some] at hnext
          rw [List.drop_eq_getElem_cons hlast]
          dsimp only
          split_ifs at hnext ⊢ with hlow hover
          · rw [scanBytes_count hcap hlt (by omega) hnext, if_pos hover]
          · rw [scanBytes_count hcap hlt (by omega) hnext, if_neg hover]
            exact ih hlast (by omega)
          · rw [scanBytes, if_pos hlt, hnext]
        · rw [if_pos hlast] at hnext
          rw [scanBytes, if_pos hlt, hnext, List.drop_of_length_le hlast]
      · have hnext : increment value index = if isLowSurrogate value[index] then
            some (.error .argument) else some (.ok (unitBytes value[index], index)) := by
          rw [increment, hunit, Option.bind_some, if_neg hhigh]
        rw [if_neg hhigh]
        split_ifs at hnext ⊢ with hlow hover
        · rw [scanBytes, if_pos hlt, hnext]
        · rw [scanBytes_count hcap hlt (by omega) hnext, if_pos hover]
        · rw [scanBytes_count hcap hlt (by omega) hnext, if_neg hover]
          exact ih hlt (by omega)
    · rw [scanBytes, if_neg (lt_irrefl _), List.drop_length]
      rfl

/-! ## The first lone surrogate -/

/-- The text goes on with a lone surrogate. -/
def LoneFirst : JavaString → Prop
  | [] => False
  | u :: rest => isLowSurrogate u = true ∨
      isHighSurrogate u = true ∧ ∀ l ∈ rest.head?, isLowSurrogate l = false

lemma not_low_of_high {u : UInt16} (h : isHighSurrogate u = true) : isLowSurrogate u = false := by
  simp only [isHighSurrogate, isLowSurrogate, Bool.and_eq_true, decide_eq_true_eq,
    Bool.and_eq_false_iff, decide_eq_false_iff_not] at h ⊢
  omega

lemma countAtMost_lone (h : LoneFirst rest) : countAtMost cap bytes rest = .error .argument := by
  cases rest with
  | nil => exact h.elim
  | cons u rest =>
    rw [countAtMost.eq_def]
    dsimp only
    rcases h with hlow | ⟨hhigh, hnext⟩
    · have hnot : ¬ isHighSurrogate u = true := fun hhigh => by
        rw [not_low_of_high hhigh] at hlow
        cases hlow
      rw [if_neg hnot, if_pos hlow]
    · rw [if_pos hhigh]
      cases rest with
      | nil => rfl
      | cons l rest => simp [hnext l rfl]

lemma exists_java_append (value : JavaString) :
    ∃ (s : String) (rest : JavaString), value = java s ++ rest ∧ (rest = [] ∨ LoneFirst rest) := by
  suffices hfirst : ∃ first rest, value = first ++ rest ∧ wellFormed first = true ∧
      (rest = [] ∨ LoneFirst rest) by
    obtain ⟨first, rest, rfl, hfirst, hrest⟩ := hfirst
    obtain ⟨s, hs⟩ := utf16Decode_of_wellFormed hfirst
    exact ⟨s, rest, by rw [java, utf16Encode_of_utf16Decode hs], hrest⟩
  induction value using wellFormed.induct with
  | case1 => exact ⟨[], [], rfl, rfl, Or.inl rfl⟩
  | case2 u hhigh => exact ⟨[], [u], rfl, rfl, Or.inr (Or.inr ⟨hhigh, by simp⟩)⟩
  | case3 u hhigh l rest ih =>
    cases hlow : isLowSurrogate l with
    | false => exact ⟨[], u :: l :: rest, rfl, rfl, Or.inr (Or.inr ⟨hhigh, by simpa using hlow⟩)⟩
    | true =>
      obtain ⟨first, last, rfl, hfirst, hlast⟩ := ih
      exact ⟨u :: l :: first, last, rfl, by simp [wellFormed, hhigh, hlow, hfirst], hlast⟩
  | case4 u rest hhigh hlow => exact ⟨[], u :: rest, rfl, rfl, Or.inr (Or.inl hlow)⟩
  | case5 u rest hhigh hlow ih =>
    obtain ⟨first, last, rfl, hfirst, hlast⟩ := ih
    refine ⟨u :: first, last, rfl, ?_, hlast⟩
    rw [wellFormed.eq_def]
    simp [hhigh, hlow, hfirst]

/-- **The count**: up to the first lone surrogate, or to the end, as far as the cap. -/
lemma utf8BytesAtMost_eq (s : String) (hrest : rest = [] ∨ LoneFirst rest) :
    utf8BytesAtMost (java s ++ rest) cap =
      if (asBytes s).length ≤ cap then
        if rest = [] then .ok (asBytes s).length else .error .argument
      else .ok (overCap cap) := by
  rw [utf8BytesAtMost, countAtMost_java_append s (Nat.zero_le _), Nat.zero_add]
  rcases Nat.lt_or_ge cap (asBytes s).length with hover | hle
  · rw [if_pos hover, if_neg (by omega)]
  · rw [if_neg (by omega), if_pos hle]
    rcases hrest with rfl | hlone
    · rw [if_pos rfl, countAtMost]
    · have hne : rest ≠ [] := by
        rintro rfl
        exact hlone
      rw [if_neg hne, countAtMost_lone hlone]

/-! ## Cutting a text -/

/-- The first `n` units are at most 512 and do not end inside a pair. -/
structure CutsAt (value : JavaString) (n : ℕ) : Prop where
  small : n ≤ 512
  within : n ≤ value.length
  whole : ∀ m, n = m + 1 → ∀ h ∈ value[m]?, isHighSurrogate h = true →
    ∀ l ∈ value[m + 1]?, isLowSurrogate l = false

lemma low_of_wellFormed (h : wellFormed value = true) {u : UInt16} (hu : value[index]? = some u)
    (hhigh : isHighSurrogate u = true) : ∃ l, value[index + 1]? = some l ∧ isLowSurrogate l = true := by
  induction value using wellFormed.induct generalizing index with
  | case1 => simp at hu
  | case2 v hv => simp [wellFormed, hv] at h
  | case3 v hv l rest ih =>
    simp only [wellFormed, hv, if_true, Bool.and_eq_true] at h
    rcases index with _ | _ | index
    · exact ⟨l, rfl, h.1⟩
    · obtain rfl : l = u := by simpa using hu
      rw [not_low_of_high hhigh] at h
      exact absurd h.1 Bool.false_ne_true
    · exact ih h.2 (by simpa using hu)
  | case4 v rest hv hlow =>
    rw [wellFormed.eq_def] at h
    simp [hv, hlow] at h
  | case5 v rest hv hlow ih =>
    rw [wellFormed.eq_def] at h
    simp only [hv, hlow, Bool.false_eq_true, if_false] at h
    cases index with
    | zero =>
      obtain rfl : v = u := by simpa using hu
      exact absurd hhigh hv
    | succ index => exact ih h (by simpa using hu)

/-- Unicode that is cut behind a unit that is no high surrogate is Unicode. -/
lemma wellFormed_take (h : wellFormed value = true) {n : ℕ}
    (hlast : ∀ m, n = m + 1 → ∀ u ∈ value[m]?, isHighSurrogate u = false) :
    wellFormed (value.take n) = true := by
  induction value using wellFormed.induct generalizing n with
  | case1 => simp [wellFormed]
  | case2 v hv => simp [wellFormed, hv] at h
  | case3 v hv l rest ih =>
    simp only [wellFormed, hv, if_true, Bool.and_eq_true] at h
    rcases n with _ | _ | n
    · rfl
    · simp [hv] at hlast
    · rw [List.take_succ_cons, List.take_succ_cons, wellFormed, if_pos hv, h.1, Bool.true_and]
      refine ih h.2 fun m hm u hu => hlast (m + 2) (by omega) u (by simpa using hu)
  | case4 v rest hv hlow =>
    rw [wellFormed.eq_def] at h
    simp [hv, hlow] at h
  | case5 v rest hv hlow ih =>
    rw [wellFormed.eq_def] at h
    simp only [hv, hlow, Bool.false_eq_true, if_false] at h
    cases n with
    | zero => rfl
    | succ n =>
      rw [List.take_succ_cons, wellFormed.eq_def]
      simp only [hv, hlow, Bool.false_eq_true, if_false]
      refine ih h fun m hm u hu => hlast (m + 1) (by omega) u (by simpa using hu)

/-- `bounded` fails where the cut text is no Unicode. -/
lemma bounded_eq (value : JavaString) : bounded (some value) =
    if wellFormed (cut value) then .ok (cut value) else .error .argument := by
  cases hwell : wellFormed (cut value) with
  | true =>
    obtain ⟨t, ht⟩ := utf16Decode_of_wellFormed hwell
    obtain ⟨n, hn⟩ := safeByteCount_java t
    rw [safeByteCount, java, utf16Encode_of_utf16Decode ht] at hn
    rw [bounded, hn]
    rfl
  | false =>
    obtain ⟨s, rest, hvalue, hrest⟩ := exists_java_append (cut value)
    cases hbounded : bounded (some value) with
    | ok text =>
      obtain ⟨rfl, hyes⟩ := bounded_eq_ok hbounded
      rw [hwell] at hyes
      cases hyes
    | error failure =>
      rw [bounded, hvalue, utf8BytesAtMost_eq s hrest] at hbounded
      split_ifs at hbounded
      · cases hbounded
      · obtain rfl := Except.error.inj hbounded
        rfl
      · cases hbounded

/-- **The cut**: of Unicode it is the longest beginning that fits, and is Unicode. -/
lemma cut_eq_take (h : wellFormed value = true) : ∃ n, cut value = value.take n ∧ CutsAt value n ∧
    (∀ m, CutsAt value m → m ≤ n) ∧ wellFormed (value.take n) = true := by
  rcases Nat.lt_or_ge 512 value.length with hlong | hshort
  · have hhead : (value.drop 511).head? = some value[511] := by
      rw [List.head?_drop, List.getElem?_eq_getElem (by omega)]
    have hunit : value[511]? = some value[511] := List.getElem?_eq_getElem (by omega)
    rw [cut, if_neg (by omega), hhead, Option.any_some]
    split_ifs with hhigh
    · -- The last unit is the first half of a pair.
      have hbefore : ∀ u ∈ value[510]?, isHighSurrogate u = false := by
        intro u hu
        by_contra hhigh'
        obtain ⟨l, hl, hlow⟩ := low_of_wellFormed h hu (by simpa using hhigh')
        obtain rfl := Option.some.inj (hl.symm.trans hunit)
        rw [not_low_of_high hhigh] at hlow
        cases hlow
      refine ⟨511, rfl, ⟨by omega, by omega, ?_⟩, ?_, wellFormed_take h ?_⟩
      · rintro m ⟨⟩ u hu hu'
        rw [hbefore u hu] at hu'
        cases hu'
      · intro m hm
        by_contra hmore
        obtain ⟨l, hl, hlow⟩ := low_of_wellFormed h hunit hhigh
        have hnot := hm.whole 511 (by have := hm.small; omega) _ hunit hhigh l hl
        rw [hlow] at hnot
        cases hnot
      · rintro m ⟨⟩
        exact hbefore
    · have hlast : ∀ m, 512 = m + 1 → ∀ u ∈ value[m]?, isHighSurrogate u = false := by
        rintro m ⟨⟩ u hu
        obtain rfl := Option.some.inj (hunit.symm.trans hu)
        exact Bool.eq_false_iff.mpr hhigh
      refine ⟨512, rfl, ⟨le_refl _, by omega, ?_⟩, fun m hm => hm.small, wellFormed_take h hlast⟩
      intro m hm u hu hu'
      rw [hlast m hm u hu] at hu'
      cases hu'
  · refine ⟨value.length, ?_, ⟨hshort, le_refl _, ?_⟩, fun m hm => hm.within, ?_⟩
    · rw [cut, if_pos hshort, List.take_length]
    · rintro m hm - - - l hl
      rw [← hm, List.getElem?_eq_none (le_refl _)] at hl
      cases hl
    · rwa [List.take_length]

/-- **Bounded counting.**  The count ends with a failure at the first lone surrogate, if the texts
before it fit; without one it is the number of bytes, or passes the cap.  Unicode is cut at the last
place up to 512 units that is not inside a pair; another text is cut by its unit 512 alone, and
refused when what is left has a lone surrogate. -/
theorem bytes_counted (value : JavaString) (cap : ℕ) (hlength : value.length ≤ maxInteger)
    (hcap : cap ≤ maxInteger) :
    (∃ (s : String) (rest : JavaString), value = java s ++ rest ∧ (rest = [] ∨ LoneFirst rest)) ∧
      (∀ (s : String) (rest : JavaString), value = java s ++ rest → (rest = [] ∨ LoneFirst rest) →
        scanBytes value cap (value.length + 1) 0 0 =
          some (if (asBytes s).length ≤ cap then
              if rest = [] then .ok (asBytes s).length else .error .argument
            else .ok (if cap = maxInteger then maxInteger else cap + 1))) ∧
      (wellFormed value = true → ∃ n, bounded (some value) = .ok (value.take n) ∧ CutsAt value n ∧
        (∀ m, CutsAt value m → m ≤ n) ∧ wellFormed (value.take n) = true) ∧
      bounded (some value) =
        if wellFormed (cut value) then .ok (cut value) else .error .argument := by
  refine ⟨exists_java_append value, ?_, ?_, bounded_eq value⟩
  · rintro s rest rfl hrest
    rw [scanBytes_eq hlength hcap (Nat.zero_le _) (by omega), List.drop_zero]
    exact congrArg some (utf8BytesAtMost_eq s hrest)
  · intro hwell
    obtain ⟨n, hcut, hcuts, hlongest, htake⟩ := cut_eq_take hwell
    refine ⟨n, ?_, hcuts, hlongest, htake⟩
    rw [bounded_eq, hcut, if_pos htake]

/-- An emoji behind a letter takes five bytes. -/
theorem bytes_counted_emoji :
    scanBytes [0x61, 0xD83D, 0xDE00] 5 4 0 0 = some (.ok 5) ∧
      scanBytes [0x61, 0xD83D, 0xDE00] 4 4 0 0 = some (.ok 5) := by
  have hjava : ([0x61, 0xD83D, 0xDE00] : JavaString) = java "a😀" ++ [] := by decide
  have hfits := (bytes_counted [0x61, 0xD83D, 0xDE00] 5 (by decide) (by decide)).2.1 _ _ hjava
    (Or.inl rfl)
  have hpasses := (bytes_counted [0x61, 0xD83D, 0xDE00] 4 (by decide) (by decide)).2.1 _ _ hjava
    (Or.inl rfl)
  exact ⟨hfits.trans (by decide), hpasses.trans (by decide)⟩

/-- A letter, a lone surrogate at the last place, and a letter behind it. -/
def loneText : JavaString := List.replicate 511 0x61 ++ [0xD800, 0x61]

lemma cutsAt_loneText : CutsAt loneText 512 := by
  refine ⟨le_refl _, by decide +kernel, ?_⟩
  rintro m ⟨⟩ u - - l hl
  have hlast : loneText[512]? = some 0x61 := by decide +kernel
  obtain rfl := Option.some.inj (hlast.symm.trans hl)
  decide

/-- `bounded` fails for a lone surrogate, and one at the last place makes it stop too early. -/
theorem bounded_lone :
    bounded (some [0xD800]) = .error .argument ∧
      ∀ n, bounded (some loneText) = .ok (loneText.take n) → ¬ ∀ m, CutsAt loneText m → m ≤ n := by
  refine ⟨by decide, fun n hn hlongest => ?_⟩
  have hcut : bounded (some loneText) = .ok (loneText.take 511) := by decide +kernel
  have hsame : (loneText.take n).length = (loneText.take 511).length :=
    congrArg List.length (Except.ok.inj (hn.symm.trans hcut))
  have hlength : loneText.length = 513 := by decide +kernel
  rw [List.length_take, List.length_take, hlength] at hsame
  have := hlongest 512 cutsAt_loneText
  omega

end JaDesktop.Sidecar.EventNormalizerPolicy
