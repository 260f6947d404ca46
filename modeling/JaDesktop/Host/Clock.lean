import Mathlib.Data.Nat.Log
import Mathlib.Data.Prod.Lex
import JaDesktop.Host.Timestamps
import JaDesktop.Lib.Calendar

/-!
# The clock of the host

`now_timestamp` writes the date that `civil_from_days` computes, and `approval_expired` compares its
text with the canonical form of an expiry.  The dates are those of the calendar, and the order of the
texts is that of the instants.
-/

namespace JaDesktop.Host

/-! ## Dates -/

/-- A sum, a difference or a product that is an `i64`. -/
def i64 (n : ℤ) : Option ℤ := if -2 ^ 63 ≤ n ∧ n < 2 ^ 63 then some n else none

/-- The era of a day, which may lie before the first one. -/
def eraOf (z : ℤ) : Option ℤ :=
  (if 0 ≤ z then some z else i64 (z - 146096)).map (·.tdiv 146097)

/-- The year of the era, as `civil_from_days` computes it. -/
def yearOfEra (doe : ℤ) : Option ℤ := do
  let sum ← i64 ((← i64 (doe - doe.tdiv 1460)) + doe.tdiv 36524)
  some ((← i64 (sum - doe.tdiv 146096)).tdiv 365)

/-- The day of the year that begins in March. -/
def dayOfYear (doe yoe : ℤ) : Option ℤ := do
  let sum ← i64 ((← i64 (365 * yoe)) + yoe.tdiv 4)
  i64 (doe - (← i64 (sum - yoe.tdiv 100)))

/-- The date on a day of the year that begins in March. -/
def dateOfYear (year doy : ℤ) : Option (ℤ × ℤ × ℤ) := do
  let monthPart := (← i64 ((← i64 (5 * doy)) + 2)).tdiv 153
  let before := (← i64 ((← i64 (153 * monthPart)) + 2)).tdiv 5
  let day ← i64 ((← i64 (doy - before)) + 1)
  let month ← i64 (monthPart + if monthPart < 10 then 3 else -9)
  let year ← i64 (year + if month ≤ 2 then 1 else 0)
  some (year, month, day)

/-- `civil_from_days`; nothing where an `i64` overflows. -/
def civilFromDays (days : ℤ) : Option (ℤ × ℤ × ℤ) := do
  let z ← i64 (days + 719468)
  let era ← eraOf z
  let doe ← i64 (z - (← i64 (era * 146097)))
  let yoe ← yearOfEra doe
  let year ← i64 (yoe + (← i64 (era * 400)))
  dateOfYear year (← dayOfYear doe yoe)

lemma i64_of {n : ℤ} (hlow : -2 ^ 63 ≤ n) (hhigh : n < 2 ^ 63) : i64 n = some n :=
  if_pos ⟨hlow, hhigh⟩

lemma i64_bind {α : Type} {n : ℤ} {f : ℤ → Option α} (h : -2 ^ 63 ≤ n ∧ n < 2 ^ 63) :
    (i64 n).bind f = f n := by
  rw [i64, if_pos h, Option.bind_some]

/-- The days of the years of an era before a year. -/
def eraDays (yoe : ℕ) : ℕ := 365 * yoe + yoe / 4 - yoe / 100 + yoe / 400

/-- What is divided by the days of a year. -/
def evened (doe : ℕ) : ℕ := doe - doe / 1460 + doe / 36524 - doe / 146096

lemma evened_mono : Monotone evened := by
  refine monotone_nat_of_le_succ fun doe => ?_
  simp only [evened]
  omega

lemma evened_eraDays : ∀ yoe < 400, 365 * yoe ≤ evened (eraDays yoe) ∧
    evened (eraDays (yoe + 1) - 1) < 365 * (yoe + 1) := by
  decide +kernel

lemma eraDays_le {doe : ℕ} (hdoe : doe < 146097) : evened doe / 365 < 400 ∧
    eraDays (evened doe / 365) ≤ doe ∧ doe < eraDays (evened doe / 365 + 1) := by
  have hyear : evened doe / 365 < 400 := by
    have hmost : evened doe ≤ evened 146096 := evened_mono (by omega)
    have hend : evened 146096 < 365 * 400 := by decide
    omega
  refine ⟨hyear, ?_, ?_⟩
  · by_contra hbefore
    cases hyoe : evened doe / 365 with
    | zero => simp [hyoe, eraDays] at hbefore
    | succ yoe =>
      have hle : evened doe ≤ evened (eraDays (yoe + 1) - 1) := evened_mono (by
        rw [hyoe] at hbefore
        omega)
      have := (evened_eraDays yoe (by omega)).2
      omega
  · by_contra hbehind
    have hle := evened_mono (Nat.le_of_not_lt hbehind)
    rcases Nat.lt_or_ge (evened doe / 365 + 1) 400 with hnext | hlast
    · have := (evened_eraDays _ hnext).1
      omega
    · have heq : evened doe / 365 + 1 = 400 := by omega
      rw [heq] at hbehind
      exact hbehind hdoe

lemma yearOfEra_eq {doe : ℕ} (hdoe : doe < 146097) :
    yearOfEra doe = some ((evened doe / 365 : ℕ) : ℤ) := by
  have hdiv (k : ℕ) : (doe : ℤ).tdiv k = ((doe / k : ℕ) : ℤ) := (Int.ofNat_tdiv doe k).symm
  have h1 := hdiv 1460
  have h2 := hdiv 36524
  have h3 := hdiv 146096
  push_cast at h1 h2 h3
  simp only [yearOfEra, h1, h2, h3, Option.bind_eq_bind]
  rw [i64_bind (by omega), i64_bind (by omega), i64_bind (by omega)]
  rw [Int.tdiv_eq_ediv_of_nonneg (by omega)]
  simp only [evened]
  congr 1
  omega

lemma dayOfYear_eq {doe yoe : ℕ} (hyoe : yoe < 400) (hdoe : doe < 146097)
    (hle : eraDays yoe ≤ doe) :
    dayOfYear doe yoe = some ((doe - eraDays yoe : ℕ) : ℤ) := by
  rw [eraDays] at *
  simp only [dayOfYear, Option.bind_eq_bind, Int.tdiv_eq_ediv_of_nonneg (Int.natCast_nonneg yoe)]
  rw [i64_bind (by omega), i64_bind (by omega), i64_bind (by omega), i64_of (by omega) (by omega)]
  congr 1
  omega

lemma dateOfYear_eq {year : ℤ} {doy : ℕ} (hlow : -2 ^ 60 ≤ year) (hhigh : year < 2 ^ 60)
    (hdoy : doy < 366) (hleap : doy = 365 → 4 ∣ year + 1 ∧ (100 ∣ year + 1 → 400 ∣ year + 1)) :
    ∃ d : CivilDate, dateOfYear year doy = some (d.year, (d.month : ℤ), (d.day : ℤ)) ∧
      d.dayNumber = 365 * year + year / 4 - year / 100 + year / 400 + doy - 719468 := by
  obtain ⟨part, hpart⟩ : ∃ part, part = (5 * doy + 2) / 153 := ⟨_, rfl⟩
  have hpart' : (5 * (doy : ℤ) + 2).tdiv 153 = part := by
    rw [Int.tdiv_eq_ediv_of_nonneg (by omega)]
    omega
  have hbefore : (153 * (part : ℤ) + 2).tdiv 5 = ((153 * part + 2) / 5 : ℕ) := by
    rw [Int.tdiv_eq_ediv_of_nonneg (by omega)]
    omega
  have hle : (153 * part + 2) / 5 ≤ doy := by omega
  have hdate (month next : ℤ) (hmonth : month = part + if (part : ℤ) < 10 then 3 else -9)
      (hnext : next = year + if month ≤ 2 then 1 else 0) (hbound : -2 ^ 61 ≤ next ∧ next < 2 ^ 61) :
      dateOfYear year doy = some (next, month, ((doy - (153 * part + 2) / 5 + 1 : ℕ) : ℤ)) := by
    simp only [dateOfYear, Option.bind_eq_bind]
    rw [i64_bind (by omega), i64_bind (by omega), hpart', i64_bind (by omega),
      i64_bind (by omega), hbefore, i64_bind (by omega), i64_bind (by omega), ← hmonth,
      i64_bind (by split_ifs at hmonth <;> omega), ← hnext, i64_bind (by omega)]
    congr 3
    omega
  rcases Nat.lt_or_ge part 10 with hspring | hwinter
  · have hlength : ∀ length ∈ (monthDays year)[part + 3 - 1]?,
        ((doy - (153 * part + 2) / 5 + 1 : ℕ) : ℤ) ≤ length := by
      clear hpart' hbefore hdate
      interval_cases part <;> rintro length ⟨⟩ <;> omega
    refine ⟨⟨year, part + 3, doy - (153 * part + 2) / 5 + 1, by omega, by omega, hlength⟩, ?_, ?_⟩
    · exact hdate (part + 3 : ℕ) year (by rw [if_pos (by omega)]; push_cast; rfl)
        (by rw [if_neg (by omega), add_zero]) (by omega)
    · have hsum : ((monthDays year).take (part + 3 - 1)).sum = ((153 * part + 2) / 5 : ℕ) + 59 +
          if 4 ∣ year ∧ (100 ∣ year → 400 ∣ year) then 1 else 0 := by
        clear hpart hpart' hbefore hle hdate hlength
        interval_cases part <;> simp [monthDays] <;> split_ifs <;> rfl
      show daysBeforeYear year - daysBeforeYear 1970 + ((monthDays year).take (part + 3 - 1)).sum +
        (((doy - (153 * part + 2) / 5 + 1 : ℕ) : ℤ) - 1) = _
      rw [hsum]
      simp only [daysBeforeYear]
      split_ifs <;> omega
  · have hlast : part = 10 ∨ part = 11 := by omega
    have hlength : ∀ length ∈ (monthDays (year + 1))[part - 9 - 1]?,
        ((doy - (153 * part + 2) / 5 + 1 : ℕ) : ℤ) ≤ length := by
      clear hpart' hbefore hdate
      rcases hlast with rfl | rfl
      · rintro length ⟨⟩
        omega
      · rintro length ⟨⟩
        split_ifs <;> omega
    refine ⟨⟨year + 1, part - 9, doy - (153 * part + 2) / 5 + 1, by omega, by omega, hlength⟩,
      ?_, ?_⟩
    · refine hdate (part - 9 : ℕ) (year + 1) ?_ (by rw [if_pos (by omega)]) (by omega)
      rw [if_neg (by omega)]
      omega
    · have hsum : ((monthDays (year + 1)).take (part - 9 - 1)).sum = 31 * (part - 10 : ℕ) := by
        rcases hlast with rfl | rfl
        · rfl
        · rfl
      show daysBeforeYear (year + 1) - daysBeforeYear 1970 +
        ((monthDays (year + 1)).take (part - 9 - 1)).sum +
          (((doy - (153 * part + 2) / 5 + 1 : ℕ) : ℤ) - 1) = _
      rw [hsum]
      simp only [daysBeforeYear]
      omega

lemma eraOf_eq {z : ℤ} (hlow : -2 ^ 63 + 146096 ≤ z) : eraOf z = some (z / 146097) := by
  rw [eraOf]
  split_ifs with hpositive
  · rw [Option.map_some, Int.tdiv_eq_ediv_of_nonneg hpositive]
  · rw [i64_of (by omega) (by omega), Option.map_some, ← neg_neg (z - 146096), Int.neg_tdiv,
      Int.tdiv_eq_ediv_of_nonneg (by omega)]
    congr 1
    omega

lemma eraDays_succ (yoe : ℕ) : eraDays (yoe + 1) ≤ eraDays yoe + 366 ∧
    (eraDays yoe + 365 < eraDays (yoe + 1) →
      4 ∣ yoe + 1 ∧ (100 ∣ yoe + 1 → 400 ∣ yoe + 1)) := by
  simp only [eraDays]
  omega

lemma eraDays_add (yoe : ℕ) (era : ℤ) : 365 * (yoe + era * 400) + (yoe + era * 400) / 4 -
    (yoe + era * 400) / 100 + (yoe + era * 400) / 400 = eraDays yoe + era * 146097 := by
  simp only [eraDays]
  omega

/-- **The dates**: every day has its date. -/
theorem civilFromDays_eq {days : ℤ} (hlow : -2 ^ 63 ≤ days) (hhigh : days + 719468 < 2 ^ 63) :
    ∃ d : CivilDate, civilFromDays days = some (d.year, (d.month : ℤ), (d.day : ℤ)) ∧
      d.dayNumber = days := by
  obtain ⟨era, hera⟩ : ∃ era, era = (days + 719468) / 146097 := ⟨_, rfl⟩
  obtain ⟨doe, hdoe⟩ : ∃ doe : ℕ, (doe : ℤ) = days + 719468 - era * 146097 :=
    ⟨(days + 719468 - era * 146097).toNat, by omega⟩
  have hlt : doe < 146097 := by omega
  obtain ⟨yoe, hyoe⟩ : ∃ yoe, yoe = evened doe / 365 := ⟨_, rfl⟩
  obtain ⟨hyear, hbefore, hbehind⟩ := eraDays_le hlt
  rw [← hyoe] at hyear hbefore hbehind
  obtain ⟨hmost, hleap⟩ := eraDays_succ yoe
  have hdoy : doe - eraDays yoe = 365 → 4 ∣ (yoe : ℤ) + era * 400 + 1 ∧
      (100 ∣ (yoe : ℤ) + era * 400 + 1 → 400 ∣ (yoe : ℤ) + era * 400 + 1) := by
    intro hlast
    have := hleap (by omega)
    omega
  obtain ⟨d, hdate, hnumber⟩ := dateOfYear_eq (by omega) (by omega) (by omega) hdoy
  refine ⟨d, ?_, ?_⟩
  · simp only [civilFromDays, Option.bind_eq_bind]
    rw [i64_bind (by omega), eraOf_eq (by omega), Option.bind_some, ← hera,
      i64_bind (by omega), ← hdoe, i64_bind (by omega), yearOfEra_eq hlt, Option.bind_some, ← hyoe,
      i64_bind (by omega), i64_bind (by omega), dayOfYear_eq hyear hlt hbefore, Option.bind_some,
      hdate]
  · rw [hnumber, eraDays_add]
    omega

/-! ## Texts -/

/-- The text of ASCII bytes. -/
def asciiText (bytes : List UInt8) : String := String.ofList (bytes.map fun b => Char.ofNat b.toNat)

/-- The format `{:0width}` of an integer. -/
def padded (width : ℕ) : ℤ → List UInt8
  | .ofNat n => decimalDigits (max width (Nat.log 10 n + 1)) n
  | .negSucc n => 0x2D :: decimalDigits (max (width - 1) (Nat.log 10 (n + 1) + 1)) (n + 1)

/-- `now_timestamp`, so many seconds and milliseconds after the epoch. -/
def nowTimestamp (seconds millis : ℕ) : Option String :=
  (civilFromDays (seconds / 86400 : ℕ)).map fun date => asciiText
    (padded 4 date.1 ++ 0x2D :: (padded 2 date.2.1 ++ 0x2D :: (padded 2 date.2.2 ++ 0x54 ::
      (padded 2 (seconds % 86400 / 3600 : ℕ) ++ 0x3A :: (padded 2 (seconds % 86400 / 60 % 60 : ℕ) ++
        0x3A :: (padded 2 (seconds % 86400 % 60 : ℕ) ++ 0x2E :: (padded 3 millis ++ [0x5A])))))))

/-- `canonical_timestamp`. -/
def canonicalTimestamp (value : String) : Option String :=
  let bytes := asBytes value
  let canonical (millis : ℕ) : String := asciiText (bytes.take 19 ++ 0x2E :: (padded 3 millis ++ [0x5A]))
  if bytes.length < 20 || 64 < bytes.length || bytes.getLast? != some 0x5A ||
      bytes[10]? != some 0x54 || bytes[4]? != some 0x2D || bytes[7]? != some 0x2D ||
      bytes[13]? != some 0x3A || bytes[16]? != some 0x3A then none
  else if !([0, 1, 2, 3, 5, 6, 8, 9, 11, 12, 14, 15, 17, 18].all fun index : ℕ =>
      bytes[index]?.any isAsciiDigit) then none
  else if bytes.length = 20 then some (canonical 0)
  else if bytes[19]? != some 0x2E || bytes.length < 22 then none
  else
    let fraction := (bytes.drop 20).take (bytes.length - 21)
    if fraction.isEmpty || !fraction.all isAsciiDigit then none
    else
      let digit (index : ℕ) : ℕ := (fraction[index]?.getD 0x30).toNat - 0x30
      some (canonical (digit 0 * 100 + digit 1 * 10 + digit 2))

/-- `approval_expired` at a time with this text. -/
def approvalExpired (expiresAt now : String) : Bool :=
  match canonicalTimestamp expiresAt with
  | none => true
  | some canonical => asBytes canonical ≤ asBytes now

lemma asBytes_asciiText {bytes : List UInt8} (h : ∀ b ∈ bytes, b.toNat < 0x80) :
    asBytes (asciiText bytes) = bytes := by
  have hchar : ∀ b ∈ bytes, (Char.ofNat b.toNat).toNat = b.toNat := fun b hb =>
    toNat_charOfNat (Or.inl (by have := h b hb; omega))
  rw [asciiText, asBytes_of_ascii, String.toList_ofList, List.map_map]
  · refine (List.map_congr_left fun b hb => ?_).trans (List.map_id bytes)
    simp only [Function.comp_apply, hchar b hb, UInt8.ofNat_toNat, id]
  · rw [String.toList_ofList]
    simp only [List.mem_map]
    rintro _ ⟨b, hb, rfl⟩
    rw [hchar b hb]
    exact h b hb

lemma padded_eq {width n : ℕ} (hwidth : 0 < width) (h : n < 10 ^ width) :
    padded width n = decimalDigits width n := by
  show decimalDigits (max width (Nat.log 10 n + 1)) n = _
  have hlog : Nat.log 10 n < width := by
    rcases Nat.eq_zero_or_pos n with rfl | hpos
    · simpa using hwidth
    · exact Nat.log_lt_of_lt_pow (by omega) h
  rw [max_eq_left (by omega)]

/-! ## Instants -/

namespace DateTime

variable (d : DateTime)

lemma monthDays_natCast (year : ℕ) : monthDays year = (monthLengths year).map Nat.cast := by
  have hleap : ((4 : ℤ) ∣ year ∧ ((100 : ℤ) ∣ year → (400 : ℤ) ∣ year)) ↔
      4 ∣ year ∧ (100 ∣ year → 400 ∣ year) := by omega
  simp only [monthDays, monthLengths, List.map_cons, List.map_nil, hleap]
  split_ifs <;> rfl

/-- The date of a date-time. -/
def date : CivilDate where
  year := d.year
  month := d.month
  day := d.day
  month_mem := d.month_mem
  day_mem := by
    refine ⟨d.day_mem.1, ?_⟩
    rw [monthDays_natCast, List.getElem?_map]
    intro length hlength
    obtain ⟨days, hdays, rfl⟩ := Option.map_eq_some_iff.mp hlength
    exact_mod_cast d.day_mem.2 days hdays

/-- The milliseconds of a date-time, the rest of its fraction cut off. -/
def millis : ℕ := decimalValue ((d.fraction.getD [] ++ [0x30, 0x30, 0x30]).take 3)

/-- The seconds of its day. -/
def daySecond : ℕ := d.hour * 3600 + d.minute * 60 + d.second

/-- A date-time of UTC: a leap second is the last one of its day. -/
structure IsUtc : Prop where
  zone : d.zone = .utc
  leap : d.second = 60 → d.hour = 23 ∧ d.minute = 59

/-- The instant that a date-time names, cut to milliseconds; instants are compared by their days
first, for a day may have a leap second. -/
def instant : ℤ ×ₗ ℕ ×ₗ ℕ := toLex (d.date.dayNumber, toLex (d.daySecond, d.millis))

end DateTime

namespace DateTime

variable (d : DateTime)

lemma millis_digits : ((d.fraction.getD [] ++ [0x30, 0x30, 0x30]).take 3).length = 3 ∧
    ∀ b ∈ (d.fraction.getD [] ++ [0x30, 0x30, 0x30]).take 3, isAsciiDigit b = true := by
  constructor
  · rw [List.length_take, List.length_append]
    simp
  · intro b hb
    rcases List.mem_append.mp (List.mem_of_mem_take hb) with hb | hb
    · cases hfraction : d.fraction with
      | none =>
        rw [hfraction] at hb
        cases hb
      | some digits =>
        rw [hfraction] at hb
        exact (d.fraction_digits digits hfraction).2 b hb
    · simp only [List.mem_cons, List.not_mem_nil, or_false, or_self] at hb
      rw [hb]
      decide

lemma millis_lt : d.millis < 1000 := by
  have hlt := (decimalDigits_decimalValue d.millis_digits.2).2
  rwa [d.millis_digits.1] at hlt

/-- The fields down to the second. -/
def fields : List UInt8 :=
  decimalDigits 4 d.year ++ 0x2D :: (decimalDigits 2 d.month ++ 0x2D :: (decimalDigits 2 d.day ++
    0x54 :: (decimalDigits 2 d.hour ++ 0x3A :: (decimalDigits 2 d.minute ++
      0x3A :: decimalDigits 2 d.second))))

lemma render_eq : d.render = d.fields ++ renderTail d.fraction d.zone := by
  simp only [render, fields, renderTail, List.append_assoc, List.cons_append]

lemma length_fields : d.fields.length = 19 := by
  simp only [fields, List.length_append, List.length_cons, length_decimalDigits]

/-- The same date-time in its canonical form. -/
def canonical : DateTime :=
  { d with
    fraction := some (decimalDigits 3 d.millis)
    zone := .utc
    fraction_digits := by
      rintro digits ⟨⟩
      exact ⟨List.cons_ne_nil _ _, fun b hb => isAsciiDigit_of_mem_decimalDigits hb⟩ }

lemma render_canonical :
    d.canonical.render = d.fields ++ 0x2E :: (decimalDigits 3 d.millis ++ [0x5A]) :=
  d.canonical.render_eq

lemma ascii_canonical : ∀ b ∈ d.canonical.render, b.toNat < 0x80 := by
  have hdigits (width n : ℕ) : ∀ b ∈ decimalDigits width n, b.toNat < 0x80 := by
    intro b hb
    have := (isAsciiDigit_iff.mp (isAsciiDigit_of_mem_decimalDigits hb)).2
    omega
  simp only [render_canonical, fields, List.forall_mem_append, List.forall_mem_cons]
  exact ⟨⟨hdigits _ _, by decide, hdigits _ _, by decide, hdigits _ _, by decide, hdigits _ _,
    by decide, hdigits _ _, by decide, hdigits _ _⟩, by decide, hdigits _ _, by decide, by simp⟩

end DateTime

lemma digit_of_asciiDigits {bytes : List UInt8} {start len : ℕ}
    (h : asciiDigits bytes start len = true) (index : ℕ) (hindex : start ≤ index ∧ index < start + len) :
    bytes[index]?.any isAsciiDigit = true := by
  obtain ⟨hlength, hall⟩ := asciiDigits_iff.mp h
  have hlt : index - start < ((bytes.drop start).take len).length := by omega
  have hunit : bytes[index]? = some ((bytes.drop start).take len)[index - start] := by
    rw [← List.getElem?_eq_getElem hlt, List.getElem?_take_of_lt (by omega), List.getElem?_drop]
    congr 1
    omega
  rw [hunit, Option.any_some]
  exact hall _ (List.getElem_mem hlt)

lemma decimalValue_take (digits : List UInt8) :
    decimalValue ((digits ++ [0x30, 0x30, 0x30]).take 3) =
      ((digits[0]?.getD 0x30).toNat - 0x30) * 100 + ((digits[1]?.getD 0x30).toNat - 0x30) * 10 +
        ((digits[2]?.getD 0x30).toNat - 0x30) := by
  rcases digits with _ | ⟨a, _ | ⟨b, _ | ⟨c, rest⟩⟩⟩
  all_goals
    simp [decimalValue]
    try omega

/-- **The canonical form** of a date-time. -/
lemma canonicalTimestamp_render {d : DateTime} (hutc : d.zone = .utc) {value : String}
    (hvalue : asBytes value = d.render) (hlength : d.render.length ≤ 64) :
    canonicalTimestamp value = some (asciiText d.canonical.render) := by
  obtain ⟨hshaped, -, -⟩ := accepts_render d hlength
  obtain ⟨h4, h7, h10, h13, h16⟩ := hshaped.separators
  have hlast : d.render.getLast? = some 0x5A := by
    rw [d.render_eq, renderTail, hutc, Zone.render, ← List.append_assoc, List.getLast?_concat]
  have htake : d.render.take 19 = d.fields := by
    rw [d.render_eq, List.take_left' d.length_fields]
  have hdrop : d.render.drop 19 = renderTail d.fraction .utc := by
    rw [d.render_eq, List.drop_left' d.length_fields, hutc]
  have hdigits : ([0, 1, 2, 3, 5, 6, 8, 9, 11, 12, 14, 15, 17, 18].all fun index : ℕ =>
      d.render[index]?.any isAsciiDigit) = true := by
    have hyear := digit_of_asciiDigits hshaped.year
    have hmonth := digit_of_asciiDigits hshaped.month
    have hday := digit_of_asciiDigits hshaped.day
    have hhour := digit_of_asciiDigits hshaped.hour
    have hminute := digit_of_asciiDigits hshaped.minute
    have hsecond := digit_of_asciiDigits hshaped.second
    simp [hyear, hmonth, hday, hhour, hminute, hsecond]
  rw [canonicalTimestamp, hvalue]
  dsimp only
  rw [if_neg (by simp [hlast, h4, h7, h10, h13, h16, hlength, d.length_render]),
    if_neg (by rw [hdigits]; exact Bool.false_ne_true), htake, d.render_canonical]
  have hlate : d.render.length = 19 + (renderTail d.fraction .utc).length := by
    rw [← hutc, d.render_eq, List.length_append, d.length_fields]
  have hmillis : d.millis = decimalValue ((d.fraction.getD [] ++ [0x30, 0x30, 0x30]).take 3) := rfl
  cases hfraction : d.fraction with
  | none =>
    rw [hfraction] at hlate hmillis
    have hzero : d.millis = 0 := hmillis
    rw [if_pos (show d.render.length = 20 from hlate), hzero]
    exact congrArg (fun text => some (asciiText (d.fields ++ 0x2E :: (text ++ [0x5A]))))
      (padded_eq (n := 0) (by decide) (by decide))
  | some digits =>
    obtain ⟨hne, hall⟩ := d.fraction_digits digits hfraction
    have hpos := List.length_pos_iff.mpr hne
    rw [hfraction] at hlate hdrop hmillis
    have hlong : d.render.length = 21 + digits.length := by
      simp only [hlate, renderTail, Zone.render, Option.elim_some, List.length_append,
        List.length_cons, List.length_nil]
      omega
    obtain ⟨hpoint, hdrop'⟩ := drop_of_drop_cons hdrop
    have hpart : (d.render.drop 20).take (d.render.length - 21) = digits := by
      rw [hlong, Nat.add_sub_cancel_left, hdrop']
      exact List.take_left
    rw [if_neg (by omega), if_neg (by simp [hpoint]; omega), hpart,
      if_neg (by simpa [hne] using hall)]
    have hmillis' : d.millis = ((digits[0]?.getD 0x30).toNat - 0x30) * 100 +
        ((digits[1]?.getD 0x30).toNat - 0x30) * 10 + ((digits[2]?.getD 0x30).toNat - 0x30) :=
      hmillis.trans (decimalValue_take digits)
    rw [← hmillis', padded_eq (by decide) d.millis_lt]


namespace DateTime

variable {t u : DateTime}

/-- **The order of the canonical texts** is that of the instants. -/
lemma render_le_iff (ht : t.IsUtc) (hu : u.IsUtc) :
    t.canonical.render ≤ u.canonical.render ↔ t.instant ≤ u.instant := by
  have hcons (b : UInt8) (p q : List UInt8) : b :: p ≤ b :: q ↔ p ≤ q := by
    simp [List.cons_le_cons_iff]
  have hmonth (d : DateTime) : d.month < 10 ^ 2 := lt_of_le_of_lt d.month_mem.2 (by decide)
  have hday (d : DateTime) : d.day < 10 ^ 2 :=
    lt_of_le_of_lt (d.day_mem.2 _ (lookup_monthLengths d.month_mem)) (daysInMonth_lt _ _)
  have hclock (d : DateTime) : d.year < 10 ^ 4 ∧ d.hour < 10 ^ 2 ∧ d.minute < 10 ^ 2 ∧
      d.second < 10 ^ 2 := by
    have := d.year_le
    have := d.hour_le
    have := d.minute_le
    have := d.second_le
    omega
  have hdates : (t.year < u.year ∨ t.year = u.year ∧ (t.month < u.month ∨ t.month = u.month ∧
      t.day < u.day)) ↔ t.date.dayNumber < u.date.dayNumber := by
    rw [← CivilDate.before_iff, CivilDate.Before]
    simp only [date, Int.ofNat_lt, Int.ofNat_inj]
  have hsame : t.year = u.year ∧ t.month = u.month ∧ t.day = u.day ↔
      t.date.dayNumber = u.date.dayNumber := by
    constructor
    · rintro ⟨hyear, hmonth, hday⟩
      simp only [CivilDate.dayNumber, date, hyear, hmonth, hday]
    · intro h
      obtain ⟨hyear, hmonth, hday⟩ := CivilDate.eq_of_dayNumber h
      exact ⟨Int.ofNat_inj.mp hyear, hmonth, hday⟩
  have htimes : (t.hour < u.hour ∨ t.hour = u.hour ∧ (t.minute < u.minute ∨ t.minute = u.minute ∧
      (t.second < u.second ∨ t.second = u.second ∧ t.millis ≤ u.millis))) ↔
      t.daySecond < u.daySecond ∨ t.daySecond = u.daySecond ∧ t.millis ≤ u.millis := by
    have := ht.leap
    have := hu.leap
    have := t.hour_le
    have := u.hour_le
    have := t.minute_le
    have := u.minute_le
    have := t.second_le
    have := u.second_le
    simp only [daySecond]
    omega
  simp only [instant, Prod.Lex.le_iff, ofLex_toLex]
  rw [← hdates, ← hsame, ← htimes, render_canonical, render_canonical]
  simp only [fields, List.append_assoc, List.cons_append]
  rw [decimalDigits_append_le (hclock t).1 (hclock u).1, hcons,
    decimalDigits_append_le (hmonth t) (hmonth u), hcons,
    decimalDigits_append_le (hday t) (hday u), hcons,
    decimalDigits_append_le (hclock t).2.1 (hclock u).2.1, hcons,
    decimalDigits_append_le (hclock t).2.2.1 (hclock u).2.2.1, hcons,
    decimalDigits_append_le (hclock t).2.2.2 (hclock u).2.2.2, hcons,
    decimalDigits_append_le t.millis_lt u.millis_lt, and_iff_left (List.le_refl _)]
  omega

end DateTime

/-! ## The clock -/

lemma nowTimestamp_eq {seconds millis : ℕ} (hseconds : seconds < 253402300800)
    (hmillis : millis < 1000) : ∃ now : DateTime,
      nowTimestamp seconds millis = some (asciiText now.canonical.render) ∧ now.canonical = now ∧
        now.IsUtc ∧ now.second ≤ 59 ∧ now.date.dayNumber = (seconds / 86400 : ℕ) ∧
          now.daySecond = seconds % 86400 ∧ now.millis = millis := by
  obtain ⟨d, hdate, hnumber⟩ := @civilFromDays_eq (seconds / 86400 : ℕ) (by omega)
    (by omega)
  have hbounds := d.dayNumber_bounds
  have hlow : 1970 ≤ d.year := by
    by_contra hless
    have := daysBeforeYear_mono (show d.year + 1 ≤ 1970 by omega)
    omega
  have hhigh : d.year ≤ 9999 := by
    by_contra hmore
    have hmono := daysBeforeYear_mono (show 10000 ≤ d.year by omega)
    have hyears : daysBeforeYear 10000 - daysBeforeYear 1970 = 2932897 := by decide
    omega
  obtain ⟨year, hyear⟩ : ∃ year : ℕ, d.year = year := ⟨d.year.toNat, by omega⟩
  have hvalue : decimalValue (decimalDigits 3 millis) = millis := decimalValue_decimalDigits hmillis
  have hdigits := fun b (hb : b ∈ decimalDigits 3 millis) => isAsciiDigit_of_mem_decimalDigits hb
  have hday : 1 ≤ d.day ∧ ∀ length ∈ (monthLengths year)[d.month - 1]?, d.day ≤ length := by
    refine ⟨d.day_mem.1, fun length hlength => ?_⟩
    have hmem := d.day_mem.2 length
    rw [hyear, DateTime.monthDays_natCast, List.getElem?_map, Option.mem_def.mp hlength] at hmem
    exact_mod_cast hmem rfl
  let now : DateTime := ⟨year, d.month, d.day, seconds % 86400 / 3600, seconds % 86400 / 60 % 60,
    seconds % 86400 % 60, some (decimalDigits 3 millis), .utc, by omega, d.month_mem, hday, by omega,
    by omega, by omega, by
      rintro digits ⟨⟩
      exact ⟨List.cons_ne_nil _ _, hdigits⟩⟩
  have hnow : now.millis = millis := by
    show decimalValue ((decimalDigits 3 millis ++ [0x30, 0x30, 0x30]).take 3) = millis
    rw [List.take_left' (length_decimalDigits 3 millis), hvalue]
  have hcanonical : now.canonical = now := by
    simp only [DateTime.canonical, hnow]
    rfl
  refine ⟨now, ?_, hcanonical, ⟨rfl, fun hleap => ?_⟩, ?_, ?_, ?_, hnow⟩
  · have hmonth : d.month < 10 ^ 2 := lt_of_le_of_lt d.month_mem.2 (by decide)
    have hlate : d.day < 10 ^ 2 :=
      lt_of_le_of_lt (hday.2 _ (lookup_monthLengths d.month_mem)) (daysInMonth_lt _ _)
    rw [nowTimestamp, hdate, Option.map_some, now.render_canonical, hnow, hyear,
      padded_eq (by decide) (by omega), padded_eq (by decide) hmonth, padded_eq (by decide) hlate,
      padded_eq (by decide) (by omega), padded_eq (by decide) (by omega),
      padded_eq (by decide) (by omega), padded_eq (by decide) hmillis]
    simp only [DateTime.fields, List.append_assoc, List.cons_append, now]
  · have : seconds % 86400 % 60 = 60 := hleap
    omega
  · show seconds % 86400 % 60 ≤ 59
    omega
  · rw [← hnumber]
    simp only [CivilDate.dayNumber, DateTime.date, now, hyear]
  · show seconds % 86400 / 3600 * 3600 + seconds % 86400 / 60 % 60 * 60 + seconds % 86400 % 60 = _
    omega


/-- The milliseconds from the epoch to a date-time that is in no leap second. -/
def DateTime.unixMillis (d : DateTime) : ℤ := (d.date.dayNumber * 86400 + d.daySecond) * 1000 + d.millis

/-- **The clock of the host.**  `civil_from_days` is the inverse of the count of the days, for all days
whose sum with the offset of its eras is an `i64`.  Up to the year 9999 the text of the clock is
accepted by `valid_timestamp` and is its own canonical form; canonical texts have the order of their
instants; and an approval is expired exactly when its instant is not after the clock. -/
theorem clock_texts :
    (∀ days : ℤ, -2 ^ 63 ≤ days → days + 719468 < 2 ^ 63 → ∃ d : CivilDate,
      civilFromDays days = some (d.year, (d.month : ℤ), (d.day : ℤ)) ∧ d.dayNumber = days) ∧
    (∀ d : CivilDate, -2 ^ 63 ≤ d.dayNumber → d.dayNumber + 719468 < 2 ^ 63 →
      civilFromDays d.dayNumber = some (d.year, (d.month : ℤ), (d.day : ℤ))) ∧
    (∀ seconds millis : ℕ, seconds < 253402300800 → millis < 1000 → ∃ now,
      nowTimestamp seconds millis = some now ∧ validTimestamp now = true ∧
      canonicalTimestamp now = some now ∧
      ∀ (t : DateTime) (expiresAt : String), t.IsUtc → asBytes expiresAt = t.render →
        t.render.length ≤ 64 →
        (approvalExpired expiresAt now = true ↔
          t.instant ≤ toLex (((seconds / 86400 : ℕ) : ℤ), toLex (seconds % 86400, millis))) ∧
        (t.second ≤ 59 → (approvalExpired expiresAt now = true ↔
          t.unixMillis ≤ (seconds * 1000 + millis : ℕ)))) ∧
    ∀ (t u : DateTime) (first second : String), t.IsUtc → u.IsUtc → asBytes first = t.render →
      asBytes second = u.render → t.render.length ≤ 64 → u.render.length ≤ 64 →
      ∃ first' second', canonicalTimestamp first = some first' ∧
        canonicalTimestamp second = some second' ∧
        (asBytes first' ≤ asBytes second' ↔ t.instant ≤ u.instant) := by
  have hcanonical : ∀ (t : DateTime) (text : String), t.IsUtc → asBytes text = t.render →
      t.render.length ≤ 64 → canonicalTimestamp text = some (asciiText t.canonical.render) :=
    fun t text ht htext hlength => canonicalTimestamp_render ht.zone htext hlength
  have hbytes (t : DateTime) : asBytes (asciiText t.canonical.render) = t.canonical.render :=
    asBytes_asciiText t.ascii_canonical
  refine ⟨fun days => civilFromDays_eq, ?_, ?_, ?_⟩
  · intro d hlow hhigh
    obtain ⟨e, hdate, hnumber⟩ := civilFromDays_eq hlow hhigh
    obtain ⟨hyear, hmonth, hday⟩ := CivilDate.eq_of_dayNumber hnumber
    rw [hdate, hyear, hmonth, hday]
  · intro seconds millis hseconds hmillis
    obtain ⟨now, hnow, hsame, hutc, hsecond, hday, hdaySecond, hnowMillis⟩ :=
      nowTimestamp_eq hseconds hmillis
    have htext : asBytes (asciiText now.canonical.render) = now.render := (hbytes now).trans (by rw [hsame])
    have hlength : now.render.length = 24 := by
      rw [← hsame, now.render_canonical, List.length_append, now.length_fields]
      simp only [List.length_cons, List.length_append, length_decimalDigits, List.length_nil]
    refine ⟨_, hnow, ?_, hcanonical now _ hutc htext (by omega), ?_⟩
    · refine (timestamps_accepted _).2.mpr ⟨?_, ?_, now, htext⟩
      · rw [htext]
        omega
      · rw [htext]
        omega
    · intro t expiresAt ht hexpires hle
      have hinstant : approvalExpired expiresAt (asciiText now.canonical.render) = true ↔
          t.instant ≤ now.instant := by
        rw [approvalExpired, hcanonical t _ ht hexpires hle]
        show decide (_ ≤ _) = true ↔ _
        rw [decide_eq_true_iff, hbytes, hbytes, DateTime.render_le_iff ht hutc]
      refine ⟨?_, fun hleap => ?_⟩
      · rw [hinstant, DateTime.instant, DateTime.instant, hday, hdaySecond, hnowMillis]
      · rw [hinstant]
        simp only [DateTime.instant, Prod.Lex.le_iff, ofLex_toLex, hday, hdaySecond, hnowMillis,
          DateTime.unixMillis]
        have hlt := t.millis_lt
        have hbound : t.daySecond ≤ 86399 := by
          have := t.hour_le
          have := t.minute_le
          rw [DateTime.daySecond]
          omega
        omega
  · intro t u first second ht hu hfirst hsecond hle hle'
    refine ⟨_, _, hcanonical t _ ht hfirst hle, hcanonical u _ hu hsecond hle', ?_⟩
    rw [hbytes, hbytes, DateTime.render_le_iff ht hu]

/-- The leap day of 2024. -/
theorem clock_texts_leapDay : civilFromDays 19782 = some (2024, 2, 29) := by
  let leapDay : CivilDate := ⟨2024, 2, 29, by decide, by decide⟩
  have hnumber : leapDay.dayNumber = 19782 := by decide
  have h := clock_texts.2.1 leapDay (by rw [hnumber]; decide) (by rw [hnumber]; decide)
  rwa [hnumber] at h

end JaDesktop.Host
