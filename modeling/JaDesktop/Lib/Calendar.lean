import Mathlib.Algebra.Order.Ring.Int
import Mathlib.Algebra.Order.BigOperators.Group.List
import Mathlib.Tactic.IntervalCases

/-!
# The Gregorian calendar

The dates of the proleptic Gregorian calendar and the number of their day, counted from the first of
January 1970.
-/

namespace JaDesktop

/-- The days of the months of a year. -/
def monthDays (year : ℤ) : List ℤ :=
  [31, if 4 ∣ year ∧ (100 ∣ year → 400 ∣ year) then 29 else 28, 31, 30, 31, 30, 31, 31, 30, 31, 30,
    31]

/-- A date of the calendar. -/
structure CivilDate where
  year : ℤ
  month : ℕ
  day : ℕ
  month_mem : 1 ≤ month ∧ month ≤ 12
  day_mem : 1 ≤ day ∧ ∀ length ∈ (monthDays year)[month - 1]?, (day : ℤ) ≤ length

/-- The days between the beginnings of the year zero and of a year. -/
def daysBeforeYear (year : ℤ) : ℤ :=
  365 * year + (year + 3) / 4 - (year + 99) / 100 + (year + 399) / 400

lemma daysBeforeYear_succ (year : ℤ) :
    daysBeforeYear (year + 1) = daysBeforeYear year + (monthDays year).sum := by
  simp only [daysBeforeYear, monthDays, List.sum_cons, List.sum_nil]
  split_ifs with hleap
  · omega
  · omega

lemma daysBeforeYear_mono {a b : ℤ} (h : a ≤ b) : daysBeforeYear a ≤ daysBeforeYear b := by
  simp only [daysBeforeYear]
  omega

lemma sum_take_le (year : ℤ) {m n : ℕ} (h : m ≤ n) :
    ((monthDays year).take m).sum ≤ ((monthDays year).take n).sum := by
  refine (List.take_sublist_take_left h).sum_le_sum fun days hdays => ?_
  have hmem := List.mem_of_mem_take hdays
  simp only [monthDays, List.mem_cons, List.not_mem_nil, or_false] at hmem
  split_ifs at hmem <;> omega

namespace CivilDate

/-- The days between the first of January 1970 and a date. -/
def dayNumber (d : CivilDate) : ℤ :=
  daysBeforeYear d.year - daysBeforeYear 1970 + ((monthDays d.year).take (d.month - 1)).sum +
    (d.day - 1)

variable {d e : CivilDate}

lemma sum_take_add_day (d : CivilDate) :
    ((monthDays d.year).take (d.month - 1)).sum + d.day ≤ ((monthDays d.year).take d.month).sum := by
  have hlt : d.month - 1 < (monthDays d.year).length := by
    show d.month - 1 < 12
    have := d.month_mem
    omega
  have hday := d.day_mem.2 _ (List.getElem?_eq_getElem hlt)
  have hsum := List.sum_take_succ (monthDays d.year) (d.month - 1) hlt
  rw [Nat.sub_add_cancel d.month_mem.1] at hsum
  omega

lemma dayNumber_bounds (d : CivilDate) :
    daysBeforeYear d.year ≤ d.dayNumber + daysBeforeYear 1970 ∧
      d.dayNumber + daysBeforeYear 1970 < daysBeforeYear (d.year + 1) := by
  have hfirst := sum_take_le d.year (Nat.zero_le (d.month - 1))
  have hlast : ((monthDays d.year).take d.month).sum ≤ ((monthDays d.year).take 12).sum :=
    sum_take_le d.year d.month_mem.2
  have hday := d.sum_take_add_day
  have hpos := d.day_mem.1
  rw [List.take_zero, List.sum_nil] at hfirst
  have hwhole : (monthDays d.year).take 12 = monthDays d.year := rfl
  rw [hwhole] at hlast
  rw [daysBeforeYear_succ, dayNumber]
  omega

/-- A date comes before another one. -/
def Before (d e : CivilDate) : Prop :=
  d.year < e.year ∨ d.year = e.year ∧ (d.month < e.month ∨ d.month = e.month ∧ d.day < e.day)

/-- **The order of the dates** is that of their days. -/
lemma dayNumber_lt (h : d.Before e) : d.dayNumber < e.dayNumber := by
  rcases h with hyear | ⟨hyear, hmonth | ⟨hmonth, hday⟩⟩
  · have hbounds := d.dayNumber_bounds.2
    have hbounds' := e.dayNumber_bounds.1
    have hmono := daysBeforeYear_mono (Int.add_one_le_of_lt hyear)
    omega
  · have hday := d.sum_take_add_day
    have hpos := e.day_mem.1
    have hmono := sum_take_le e.year (Nat.le_sub_one_of_lt hmonth)
    rw [dayNumber, dayNumber]
    rw [hyear] at hday ⊢
    omega
  · rw [dayNumber, dayNumber, hyear, hmonth]
    omega

lemma before_iff : d.Before e ↔ d.dayNumber < e.dayNumber := by
  refine ⟨dayNumber_lt, fun hlt => ?_⟩
  by_contra hnot
  have hcases : e.Before d ∨ d.year = e.year ∧ d.month = e.month ∧ d.day = e.day := by
    simp only [Before] at hnot ⊢
    omega
  rcases hcases with hafter | ⟨hyear, hmonth, hday⟩
  · exact lt_asymm hlt (dayNumber_lt hafter)
  · rw [dayNumber, dayNumber, hyear, hmonth, hday] at hlt
    exact lt_irrefl _ hlt

lemma eq_of_dayNumber (h : d.dayNumber = e.dayNumber) :
    d.year = e.year ∧ d.month = e.month ∧ d.day = e.day := by
  have hnot : ¬ d.Before e ∧ ¬ e.Before d := by
    rw [before_iff, before_iff]
    omega
  simp only [Before] at hnot
  omega

end CivilDate

end JaDesktop
