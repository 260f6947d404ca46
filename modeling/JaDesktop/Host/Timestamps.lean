import JaDesktop.Host.Initialize
import JaDesktop.Host.Lifecycle
import JaDesktop.Lib.Decimal
import Mathlib.Tactic.IntervalCases

/-!
# Timestamps

`valid_timestamp` reads its fields by index.  Here it is once more with the panics of its indices
and of its arithmetic; it never panics, and it accepts the texts of the date-times.
-/

namespace JaDesktop.Host

/-! ## Date-times -/

/-- The days of the months of a year. -/
def monthLengths (year : ℕ) : List ℕ :=
  [31, if 4 ∣ year ∧ (100 ∣ year → 400 ∣ year) then 29 else 28, 31, 30, 31, 30, 31, 31, 30, 31,
    30, 31]

/-- The zone of a date-time. -/
inductive Zone
  | utc
  | offset (west : Bool) (hour minute : ℕ) (hour_le : hour ≤ 23) (minute_le : minute ≤ 59)

/-- The text of a zone. -/
def Zone.render : Zone → List UInt8
  | utc => [0x5A]
  | offset west hour minute _ _ =>
    (if west then 0x2D else 0x2B) :: (decimalDigits 2 hour ++ 0x3A :: decimalDigits 2 minute)

/-- A date-time of the Gregorian calendar, with the digits of the fraction of its second. -/
structure DateTime where
  year : ℕ
  month : ℕ
  day : ℕ
  hour : ℕ
  minute : ℕ
  second : ℕ
  fraction : Option (List UInt8)
  zone : Zone
  year_le : year ≤ 9999
  month_mem : 1 ≤ month ∧ month ≤ 12
  day_mem : 1 ≤ day ∧ ∀ length ∈ (monthLengths year)[month - 1]?, day ≤ length
  hour_le : hour ≤ 23
  minute_le : minute ≤ 59
  second_le : second ≤ 60
  fraction_digits : ∀ digits ∈ fraction, digits ≠ [] ∧ ∀ b ∈ digits, isAsciiDigit b = true

/-- The text of a date-time. -/
def DateTime.render (d : DateTime) : List UInt8 :=
  decimalDigits 4 d.year ++ 0x2D :: (decimalDigits 2 d.month ++ 0x2D :: (decimalDigits 2 d.day ++
    0x54 :: (decimalDigits 2 d.hour ++ 0x3A :: (decimalDigits 2 d.minute ++
      0x3A :: (decimalDigits 2 d.second ++ ((d.fraction.elim [] (0x2E :: ·)) ++ d.zone.render))))))

/-! ## Panics -/

/-- Why a function of the host panics. -/
inductive Panic
  | index
  | overflow
deriving DecidableEq

variable (bytes : List UInt8)

/-- `bytes[index] == b`. -/
def byteIs (index : ℕ) (b : UInt8) : Except Panic Bool :=
  match bytes[index]? with
  | none => .error .index
  | some found => .ok (found == b)

/-- `bytes[start..start + len]`. -/
def slice (start len : ℕ) : Except Panic (List UInt8) :=
  if start + len ≤ bytes.length then .ok ((bytes.drop start).take len) else .error .index

/-- `value * 10 + u32::from(digit - b'0')`. -/
def addDigit (value : ℕ) (digit : UInt8) : Except Panic ℕ :=
  if digit.toNat < 0x30 ∨ value * 10 > u32Max ∨ value * 10 + (digit.toNat - 0x30) > u32Max then
    .error .overflow
  else .ok (value * 10 + (digit.toNat - 0x30))

/-- `decimal_component`, which may panic. -/
def readComponent (start len : ℕ) : Except Panic ℕ := do
  let part ← slice bytes start len
  part.foldlM addDigit 0

/-- `&&` of checks that may panic. -/
def andThen (first : Except Panic Bool) (second : Unit → Except Panic Bool) : Except Panic Bool :=
  match first with
  | .ok true => second ()
  | other => other

/-- The zone at the end of `valid_timestamp`. -/
def scanZone (index : ℕ) : Except Panic Bool :=
  match bytes[index]? with
  | some 0x5A => .ok (index + 1 == bytes.length)
  | some 0x2B | some 0x2D =>
    andThen (.ok (index + 6 == bytes.length)) fun _ =>
      andThen (byteIs bytes (index + 3) 0x3A) fun _ =>
        andThen (.ok (asciiDigits bytes (index + 1) 2 && asciiDigits bytes (index + 4) 2)) fun _ =>
          andThen ((readComponent bytes (index + 1) 2).map (· ≤ 23)) fun _ =>
            (readComponent bytes (index + 4) 2).map (· ≤ 59)
  | _ => .ok false

/-- The separators and the digits of the fields, which `valid_timestamp` looks at first. -/
def scanShape : Except Panic Bool :=
  andThen (.ok (bytes.length ≤ 64 && 20 ≤ bytes.length && !bytes.any isAsciiWhitespace)) fun _ =>
    andThen (byteIs bytes 4 0x2D) fun _ => andThen (byteIs bytes 7 0x2D) fun _ =>
      andThen (byteIs bytes 10 0x54) fun _ => andThen (byteIs bytes 13 0x3A) fun _ =>
        andThen (byteIs bytes 16 0x3A) fun _ =>
          .ok (asciiDigits bytes 0 4 && asciiDigits bytes 5 2 && asciiDigits bytes 8 2 &&
            asciiDigits bytes 11 2 && asciiDigits bytes 14 2 && asciiDigits bytes 17 2)

/-- The ranges of the fields. -/
def scanDate : Except Panic Bool := do
  let year ← readComponent bytes 0 4
  let month ← readComponent bytes 5 2
  let day ← readComponent bytes 8 2
  let hour ← readComponent bytes 11 2
  let minute ← readComponent bytes 14 2
  let second ← readComponent bytes 17 2
  return within 1 12 month && within 1 (daysInMonth year month) day && decide (hour ≤ 23) &&
    decide (minute ≤ 59) && decide (second ≤ 60)

/-- The fraction and the zone. -/
def scanTail : Except Panic Bool :=
  if bytes[19]? == some 0x2E then
    let fraction := (bytes.drop 20).takeWhile isAsciiDigit
    andThen (.ok !fraction.isEmpty) fun _ => scanZone bytes (20 + fraction.length)
  else scanZone bytes 19

/-- `valid_timestamp`, which may panic. -/
def scanTimestamp (value : String) : Except Panic Bool :=
  andThen (scanShape (asBytes value)) fun _ => andThen (scanDate (asBytes value)) fun _ =>
    scanTail (asBytes value)

/-! ## No panic -/

section NoPanic

variable {bytes : List UInt8} {start len index : ℕ}

lemma andThen_ok {x y : Bool} {second : Unit → Except Panic Bool}
    (h : x = true → second () = .ok y) : andThen (.ok x) second = .ok (x && y) := by
  cases x with
  | false => rfl
  | true => exact h rfl

lemma byteIs_of_lt {b : UInt8} (h : index < bytes.length) :
    byteIs bytes index b = .ok (bytes[index]? == some b) := by
  rw [byteIs, List.getElem?_eq_getElem h]
  rfl

lemma asciiDigits_iff : asciiDigits bytes start len = true ↔
    ((bytes.drop start).take len).length = len ∧
      ∀ b ∈ (bytes.drop start).take len, isAsciiDigit b = true := by
  rw [asciiDigits, Bool.and_eq_true, beq_iff_eq, List.all_eq_true]

lemma readComponent_of_asciiDigits (h : asciiDigits bytes start len = true) (hlen : 0 < len)
    (hfew : len ≤ 9) :
    readComponent bytes start len = .ok (decimalComponent bytes start len) := by
  obtain ⟨hlength, hdigits⟩ := asciiDigits_iff.mp h
  have hslice : slice bytes start len = .ok ((bytes.drop start).take len) := by
    rw [slice, if_pos]
    rw [List.length_take, List.length_drop] at hlength
    omega
  have hfold (digits : List UInt8) (hall : ∀ b ∈ digits, isAsciiDigit b = true)
      (hle : digits.length ≤ 9) : digits.foldlM addDigit 0 = .ok (decimalValue digits) := by
    induction digits using List.reverseRecOn with
    | nil => rfl
    | append_singleton digits digit ih =>
      rw [List.length_append, List.length_singleton] at hle
      have hbefore := ih (fun b hb => hall b (List.mem_append_left _ hb)) (by omega)
      have hlt := (decimalDigits_decimalValue hall).2
      have hpow : 10 ^ (digits ++ [digit]).length ≤ 10 ^ 9 := by
        refine Nat.pow_le_pow_right (by decide) ?_
        rw [List.length_append, List.length_singleton]
        exact hle
      obtain ⟨hlow, -⟩ := isAsciiDigit_iff.mp (hall digit (List.mem_append_right _ (by simp)))
      rw [List.foldlM_append, hbefore, decimalValue_concat] at *
      show (addDigit (decimalValue digits) digit >>= fun n => pure n) = _
      rw [addDigit, if_neg (by rw [u32Max]; omega)]
      rfl
  rw [readComponent, hslice]
  exact hfold _ hdigits (hlength.trans_le hfew)

lemma scanOffset_eq :
    (andThen (.ok (index + 6 == bytes.length)) fun _ =>
      andThen (byteIs bytes (index + 3) 0x3A) fun _ =>
        andThen (.ok (asciiDigits bytes (index + 1) 2 && asciiDigits bytes (index + 4) 2)) fun _ =>
          andThen ((readComponent bytes (index + 1) 2).map (· ≤ 23)) fun _ =>
            (readComponent bytes (index + 4) 2).map (· ≤ 59)) =
    .ok (index + 6 == bytes.length && bytes[index + 3]? == some 0x3A &&
      asciiDigits bytes (index + 1) 2 && asciiDigits bytes (index + 4) 2 &&
      decimalComponent bytes (index + 1) 2 ≤ 23 && decimalComponent bytes (index + 4) 2 ≤ 59) := by
  simp only [Bool.and_assoc]
  refine andThen_ok fun hlength => ?_
  rw [beq_iff_eq] at hlength
  rw [byteIs_of_lt (by omega)]
  refine andThen_ok fun _ => ?_
  rw [← Bool.and_assoc (asciiDigits bytes (index + 1) 2)]
  refine andThen_ok fun hdigits => ?_
  obtain ⟨hhour, hminute⟩ := Bool.and_eq_true_iff.mp hdigits
  rw [readComponent_of_asciiDigits hhour (by decide) (by decide),
    readComponent_of_asciiDigits hminute (by decide) (by decide)]
  exact andThen_ok fun _ => rfl

lemma scanZone_eq : scanZone bytes index = .ok (validZone bytes index) := by
  by_cases hutc : bytes[index]? = some 0x5A
  · rw [scanZone, validZone, hutc]
    rfl
  by_cases heast : bytes[index]? = some 0x2B
  · rw [scanZone, validZone, heast]
    exact scanOffset_eq
  by_cases hwest : bytes[index]? = some 0x2D
  · rw [scanZone, validZone, hwest]
    exact scanOffset_eq
  have hscan : scanZone bytes index = .ok false := by
    rw [scanZone]
    split
    next h => exact absurd h hutc
    next h => exact absurd h heast
    next h => exact absurd h hwest
    next => rfl
  have hvalid : validZone bytes index = false := by
    rw [validZone]
    split
    next h => exact absurd h hutc
    next h => exact absurd h heast
    next h => exact absurd h hwest
    next => rfl
  rw [hscan, hvalid]

/-- What the shape of a timestamp ensures for the fields. -/
structure Shaped (bytes : List UInt8) : Prop where
  lengthLe : bytes.length ≤ 64
  leLength : 20 ≤ bytes.length
  noWhitespace : bytes.any isAsciiWhitespace = false
  separators : bytes[4]? = some 0x2D ∧ bytes[7]? = some 0x2D ∧ bytes[10]? = some 0x54 ∧
    bytes[13]? = some 0x3A ∧ bytes[16]? = some 0x3A
  year : asciiDigits bytes 0 4 = true
  month : asciiDigits bytes 5 2 = true
  day : asciiDigits bytes 8 2 = true
  hour : asciiDigits bytes 11 2 = true
  minute : asciiDigits bytes 14 2 = true
  second : asciiDigits bytes 17 2 = true

open Classical in
lemma scanShape_eq : scanShape bytes = .ok (decide (Shaped bytes)) := by
  have hiff : (bytes.length ≤ 64 && 20 ≤ bytes.length && !bytes.any isAsciiWhitespace &&
      (bytes[4]? == some 0x2D && (bytes[7]? == some 0x2D && (bytes[10]? == some 0x54 &&
        (bytes[13]? == some 0x3A && (bytes[16]? == some 0x3A &&
          (asciiDigits bytes 0 4 && asciiDigits bytes 5 2 && asciiDigits bytes 8 2 &&
            asciiDigits bytes 11 2 && asciiDigits bytes 14 2 && asciiDigits bytes 17 2))))))) =
      decide (Shaped bytes) := by
    rw [Bool.eq_iff_iff, decide_eq_true_iff]
    simp only [Bool.and_eq_true, decide_eq_true_eq, Bool.not_eq_true', beq_iff_eq]
    constructor
    · rintro ⟨⟨⟨h64, h20⟩, hspace⟩, h4, h7, h10, h13, h16, ⟨⟨⟨⟨hy, hm⟩, hd⟩, hh⟩, hmin⟩, hs⟩
      exact ⟨h64, h20, hspace, ⟨h4, h7, h10, h13, h16⟩, hy, hm, hd, hh, hmin, hs⟩
    · rintro ⟨h64, h20, hspace, ⟨h4, h7, h10, h13, h16⟩, hy, hm, hd, hh, hmin, hs⟩
      exact ⟨⟨⟨h64, h20⟩, hspace⟩, h4, h7, h10, h13, h16, ⟨⟨⟨⟨hy, hm⟩, hd⟩, hh⟩, hmin⟩, hs⟩
  rw [← hiff, scanShape]
  refine andThen_ok fun hlength => ?_
  simp only [Bool.and_eq_true, decide_eq_true_eq] at hlength
  rw [byteIs_of_lt (by omega), byteIs_of_lt (by omega), byteIs_of_lt (by omega),
    byteIs_of_lt (by omega), byteIs_of_lt (by omega)]
  exact andThen_ok fun _ => andThen_ok fun _ => andThen_ok fun _ => andThen_ok fun _ =>
    andThen_ok fun _ => rfl

/-- The ranges of the fields of a date-time. -/
def inRange (bytes : List UInt8) : Bool :=
  within 1 12 (decimalComponent bytes 5 2) &&
    within 1 (daysInMonth (decimalComponent bytes 0 4) (decimalComponent bytes 5 2))
      (decimalComponent bytes 8 2) &&
    decide (decimalComponent bytes 11 2 ≤ 23) && decide (decimalComponent bytes 14 2 ≤ 59) &&
    decide (decimalComponent bytes 17 2 ≤ 60)

lemma Shaped.scanDate_eq (h : Shaped bytes) : scanDate bytes = .ok (inRange bytes) := by
  rw [scanDate, readComponent_of_asciiDigits h.year (by decide) (by decide),
    readComponent_of_asciiDigits h.month (by decide) (by decide),
    readComponent_of_asciiDigits h.day (by decide) (by decide),
    readComponent_of_asciiDigits h.hour (by decide) (by decide),
    readComponent_of_asciiDigits h.minute (by decide) (by decide),
    readComponent_of_asciiDigits h.second (by decide) (by decide)]
  rfl

/-- The end of a timestamp is right. -/
def validTail (bytes : List UInt8) : Bool :=
  if bytes[19]? == some 0x2E then
    !((bytes.drop 20).takeWhile isAsciiDigit).isEmpty &&
      validZone bytes (20 + ((bytes.drop 20).takeWhile isAsciiDigit).length)
  else validZone bytes 19

lemma scanTail_eq : scanTail bytes = .ok (validTail bytes) := by
  rw [scanTail, validTail]
  split_ifs
  · exact andThen_ok fun _ => scanZone_eq
  · exact scanZone_eq

/-- The three parts of `valid_timestamp`. -/
lemma validTimestamp_iff_parts (value : String) : validTimestamp value = true ↔
    Shaped (asBytes value) ∧ inRange (asBytes value) = true ∧ validTail (asBytes value) = true := by
  have hshape (bytes : List UInt8) : (64 < bytes.length || bytes.length < 20 ||
      bytes.any isAsciiWhitespace || bytes[4]? != some 0x2D || bytes[7]? != some 0x2D ||
      bytes[10]? != some 0x54 || bytes[13]? != some 0x3A || bytes[16]? != some 0x3A ||
      !asciiDigits bytes 0 4 || !asciiDigits bytes 5 2 || !asciiDigits bytes 8 2 ||
      !asciiDigits bytes 11 2 || !asciiDigits bytes 14 2 || !asciiDigits bytes 17 2) = false ↔
      Shaped bytes := by
    simp only [Bool.or_eq_false_iff, decide_eq_false_iff_not, Nat.not_lt, bne_eq_false_iff_eq,
      Bool.not_eq_false']
    constructor
    · rintro ⟨⟨⟨⟨⟨⟨⟨⟨⟨⟨⟨⟨⟨h64, h20⟩, hspace⟩, h4⟩, h7⟩, h10⟩, h13⟩, h16⟩, hy⟩, hm⟩, hd⟩, hh⟩, hmin⟩,
        hs⟩
      exact ⟨h64, h20, hspace, ⟨h4, h7, h10, h13, h16⟩, hy, hm, hd, hh, hmin, hs⟩
    · rintro ⟨h64, h20, hspace, ⟨h4, h7, h10, h13, h16⟩, hy, hm, hd, hh, hmin, hs⟩
      exact ⟨⟨⟨⟨⟨⟨⟨⟨⟨⟨⟨⟨⟨h64, h20⟩, hspace⟩, h4⟩, h7⟩, h10⟩, h13⟩, h16⟩, hy⟩, hm⟩, hd⟩, hh⟩, hmin⟩,
        hs⟩
  have hranges (bytes : List UInt8) :
      (!within 1 12 (decimalComponent bytes 5 2) ||
        !within 1 (daysInMonth (decimalComponent bytes 0 4) (decimalComponent bytes 5 2))
          (decimalComponent bytes 8 2) ||
        23 < decimalComponent bytes 11 2 || 59 < decimalComponent bytes 14 2 ||
        60 < decimalComponent bytes 17 2) = !inRange bytes := by
    simp only [inRange, Bool.not_and, ← decide_not, Nat.not_le]
  rw [validTimestamp]
  dsimp only
  rw [hranges]
  by_cases hshaped : Shaped (asBytes value)
  · rw [if_neg (by rw [(hshape _).mpr hshaped]; exact Bool.false_ne_true)]
    cases hrange : inRange (asBytes value) with
    | false => simp
    | true =>
      rw [Bool.not_true, if_neg Bool.false_ne_true]
      show validTail (asBytes value) = true ↔ _
      simp [hshaped]
  · rw [if_pos (by rw [← Bool.not_eq_false, hshape]; exact hshaped)]
    exact iff_of_false Bool.false_ne_true fun h => hshaped h.1

/-- **No panic**: every index is in range and no digit overflows. -/
theorem scanTimestamp_eq (value : String) : scanTimestamp value = .ok (validTimestamp value) := by
  classical
  have hparts : (decide (Shaped (asBytes value)) &&
      (inRange (asBytes value) && validTail (asBytes value))) = validTimestamp value := by
    rw [Bool.eq_iff_iff, validTimestamp_iff_parts]
    simp only [Bool.and_eq_true, decide_eq_true_eq]
  rw [scanTimestamp, scanShape_eq, ← hparts]
  refine andThen_ok fun hshaped => ?_
  rw [(of_decide_eq_true hshaped).scanDate_eq]
  exact andThen_ok fun _ => scanTail_eq

end NoPanic

/-! ## Texts -/

section Texts

variable {bytes rest : List UInt8} {start index width n : ℕ} {b : UInt8}

lemma getElem?_eq_some_iff_drop :
    bytes[index]? = some b ↔ bytes.drop index = b :: bytes.drop (index + 1) := by
  constructor
  · intro h
    obtain ⟨hlt, hb⟩ := List.getElem?_eq_some_iff.mp h
    rw [List.drop_eq_getElem_cons hlt, hb]
  · intro h
    rw [← List.head?_drop, h]
    rfl

lemma drop_of_drop_cons (h : bytes.drop index = b :: rest) :
    bytes[index]? = some b ∧ bytes.drop (index + 1) = rest := by
  have hdrop : bytes.drop (index + 1) = rest := by
    rw [← List.drop_drop, h]
    rfl
  exact ⟨getElem?_eq_some_iff_drop.mpr (by rw [h, hdrop]), hdrop⟩

lemma drop_of_asciiDigits (h : asciiDigits bytes start width = true) :
    bytes.drop start =
        decimalDigits width (decimalComponent bytes start width) ++ bytes.drop (start + width) ∧
      decimalComponent bytes start width < 10 ^ width := by
  obtain ⟨hlength, hdigits⟩ := asciiDigits_iff.mp h
  obtain ⟨hfield, hlt⟩ := decimalDigits_decimalValue hdigits
  rw [hlength] at hfield hlt
  refine ⟨?_, hlt⟩
  show _ = decimalDigits width (decimalValue ((bytes.drop start).take width)) ++ _
  rw [hfield, ← List.drop_drop, List.take_append_drop]

lemma asciiDigits_of_drop (h : bytes.drop start = decimalDigits width n ++ rest)
    (hn : n < 10 ^ width) :
    asciiDigits bytes start width = true ∧ decimalComponent bytes start width = n ∧
      bytes.drop (start + width) = rest := by
  have htake : (bytes.drop start).take width = decimalDigits width n := by
    rw [h, List.take_left' (length_decimalDigits width n)]
  refine ⟨?_, ?_, ?_⟩
  · rw [asciiDigits_iff, htake]
    exact ⟨length_decimalDigits width n, fun b hb => isAsciiDigit_of_mem_decimalDigits hb⟩
  · show decimalValue ((bytes.drop start).take width) = n
    rw [htake, decimalValue_decimalDigits hn]
  · rw [← List.drop_drop, h, List.drop_left' (length_decimalDigits width n)]

/-- **The zones**: a zone ends the text. -/
lemma validZone_iff :
    validZone bytes index = true ↔ ∃ zone : Zone, bytes.drop index = zone.render := by
  constructor
  · intro h
    rw [validZone] at h
    have hoffset (sign : UInt8) (hsign : bytes[index]? = some sign)
        (h : (index + 6 == bytes.length && bytes[index + 3]? == some 0x3A &&
          asciiDigits bytes (index + 1) 2 && asciiDigits bytes (index + 4) 2 &&
          decimalComponent bytes (index + 1) 2 ≤ 23 &&
          decimalComponent bytes (index + 4) 2 ≤ 59) = true) :
        ∃ hour minute, hour ≤ 23 ∧ minute ≤ 59 ∧
          bytes.drop index = sign :: (decimalDigits 2 hour ++ 0x3A :: decimalDigits 2 minute) := by
      simp only [Bool.and_eq_true, beq_iff_eq, decide_eq_true_eq] at h
      obtain ⟨⟨⟨⟨⟨hlength, hcolon⟩, hhour⟩, hminute⟩, hle⟩, hle'⟩ := h
      refine ⟨_, _, hle, hle', ?_⟩
      have hend : bytes.drop (index + 6) = [] := List.drop_eq_nil_iff.mpr hlength.ge
      rw [getElem?_eq_some_iff_drop.mp hsign, (drop_of_asciiDigits hhour).1,
        getElem?_eq_some_iff_drop.mp hcolon, (drop_of_asciiDigits hminute).1, hend,
        List.append_nil]
    split at h
    next hutc =>
      refine ⟨.utc, ?_⟩
      have hend : bytes.drop (index + 1) = [] := List.drop_eq_nil_iff.mpr (beq_iff_eq.mp h).ge
      rw [getElem?_eq_some_iff_drop.mp hutc, hend]
      rfl
    next heast =>
      obtain ⟨hour, minute, hhour, hminute, hdrop⟩ := hoffset _ heast h
      exact ⟨.offset false hour minute hhour hminute, hdrop⟩
    next hwest =>
      obtain ⟨hour, minute, hhour, hminute, hdrop⟩ := hoffset _ hwest h
      exact ⟨.offset true hour minute hhour hminute, hdrop⟩
    next => cases h
  · rintro ⟨zone, hdrop⟩
    have hlength := congrArg List.length hdrop
    rw [List.length_drop] at hlength
    rw [validZone]
    cases zone with
    | utc =>
      obtain ⟨hutc, -⟩ := drop_of_drop_cons hdrop
      rw [hutc]
      have hone : bytes.length - index = 1 := hlength
      exact beq_iff_eq.mpr (by omega)
    | offset west hour minute hhour hminute =>
      obtain ⟨hsign, hfirst⟩ := drop_of_drop_cons hdrop
      obtain ⟨hdigits, hvalue, hsecond⟩ := asciiDigits_of_drop hfirst (by omega)
      obtain ⟨hcolon, hthird⟩ := drop_of_drop_cons hsecond
      rw [← List.append_nil (decimalDigits 2 minute)] at hthird
      obtain ⟨hdigits', hvalue', -⟩ := asciiDigits_of_drop hthird (by omega)
      have hsix : bytes.length - index = 6 := by
        rw [hlength, Zone.render, List.length_cons, List.length_append, List.length_cons,
          length_decimalDigits, length_decimalDigits]
      have hall : (index + 6 == bytes.length && bytes[index + 3]? == some 0x3A &&
          asciiDigits bytes (index + 1) 2 && asciiDigits bytes (index + 4) 2 &&
          decimalComponent bytes (index + 1) 2 ≤ 23 &&
          decimalComponent bytes (index + 4) 2 ≤ 59) = true := by
        simp only [Bool.and_eq_true, beq_iff_eq, decide_eq_true_eq]
        refine ⟨⟨⟨⟨⟨?_, hcolon⟩, hdigits⟩, hdigits'⟩, ?_⟩, ?_⟩
        · omega
        · rw [hvalue]
          exact hhour
        · rw [hvalue']
          exact hminute
      rw [hsign]
      cases west with
      | false => exact hall
      | true => exact hall

lemma Zone.render_eq_cons (zone : Zone) :
    ∃ first rest, zone.render = first :: rest ∧ first ≠ 0x2E ∧ isAsciiDigit first = false := by
  cases zone with
  | utc => exact ⟨_, _, rfl, by decide, by decide⟩
  | offset west =>
    cases west with
    | false => exact ⟨_, _, rfl, by decide, by decide⟩
    | true => exact ⟨_, _, rfl, by decide, by decide⟩

/-- The text behind the seconds. -/
def renderTail (fraction : Option (List UInt8)) (zone : Zone) : List UInt8 :=
  fraction.elim [] (0x2E :: ·) ++ zone.render

/-- A fraction has digits. -/
def FractionDigits (fraction : Option (List UInt8)) : Prop :=
  ∀ digits ∈ fraction, digits ≠ [] ∧ ∀ b ∈ digits, isAsciiDigit b = true

lemma validTail_iff : validTail bytes = true ↔ ∃ fraction zone, FractionDigits fraction ∧
    bytes.drop 19 = renderTail fraction zone := by
  constructor
  · intro h
    rw [validTail] at h
    split_ifs at h with hpoint
    · obtain ⟨hsome, hzone⟩ := Bool.and_eq_true_iff.mp h
      obtain ⟨zone, hdrop⟩ := validZone_iff.mp hzone
      refine ⟨some ((bytes.drop 20).takeWhile isAsciiDigit), zone, ?_, ?_⟩
      · rintro digits hdigits
        obtain rfl := Option.some_inj.mp hdigits
        exact ⟨by simpa using hsome, List.all_eq_true.mp List.all_takeWhile⟩
      · rw [getElem?_eq_some_iff_drop.mp (beq_iff_eq.mp hpoint)]
        show 0x2E :: bytes.drop 20 = 0x2E :: (_ ++ zone.render)
        have hlater : bytes.drop (20 + ((bytes.drop 20).takeWhile isAsciiDigit).length) =
            (bytes.drop 20).dropWhile isAsciiDigit := by
          rw [← List.drop_drop]
          nth_rewrite 2 [← List.takeWhile_append_dropWhile (p := isAsciiDigit) (l := bytes.drop 20)]
          exact List.drop_left
        rw [← hdrop, hlater, List.takeWhile_append_dropWhile]
    · obtain ⟨zone, hdrop⟩ := validZone_iff.mp h
      exact ⟨none, zone, by simp [FractionDigits], hdrop⟩
  · rintro ⟨fraction, zone, hdigits, hdrop⟩
    obtain ⟨first, rest, hzone, hpoint, hdigit⟩ := zone.render_eq_cons
    rw [validTail]
    cases fraction with
    | none =>
      have hfirst : bytes[19]? = some first := (drop_of_drop_cons (hdrop.trans hzone)).1
      rw [hfirst, if_neg (by simpa using hpoint)]
      exact validZone_iff.mpr ⟨zone, hdrop⟩
    | some digits =>
      obtain ⟨hne, hall⟩ := hdigits digits rfl
      obtain ⟨hdot, hafter⟩ := drop_of_drop_cons hdrop
      have hrest : bytes.drop 20 = digits ++ zone.render := hafter
      have htake : (bytes.drop 20).takeWhile isAsciiDigit = digits := by
        rw [hrest, hzone, List.takeWhile_append_of_pos hall, List.takeWhile_cons_of_neg
          (by rw [hdigit]; exact Bool.false_ne_true), List.append_nil]
      rw [hdot, if_pos (by rfl), htake]
      refine Bool.and_eq_true_iff.mpr ⟨by simpa using hne, validZone_iff.mpr ⟨zone, ?_⟩⟩
      rw [← List.drop_drop, hrest, List.drop_left]

/-! ## The fields -/

lemma lookup_monthLengths {year month : ℕ} (h : 1 ≤ month ∧ month ≤ 12) :
    (monthLengths year)[month - 1]? = some (daysInMonth year month) := by
  have hleap : (if 4 ∣ year ∧ (100 ∣ year → 400 ∣ year) then 29 else 28) = daysInMonth year 2 := by
    rw [daysInMonth]
    refine if_congr ?_ rfl rfl
    omega
  obtain ⟨hlow, hhigh⟩ := h
  interval_cases month
  case «2» =>
    show some (if 4 ∣ year ∧ (100 ∣ year → 400 ∣ year) then 29 else 28) = _
    rw [hleap]
  all_goals rfl

lemma daysInMonth_lt (year month : ℕ) : daysInMonth year month < 10 ^ 2 := by
  unfold daysInMonth
  split
  · split_ifs
    all_goals decide
  all_goals decide

lemma inRange_iff : inRange bytes = true ↔
    (1 ≤ decimalComponent bytes 5 2 ∧ decimalComponent bytes 5 2 ≤ 12) ∧
      (1 ≤ decimalComponent bytes 8 2 ∧
        ∀ length ∈ (monthLengths (decimalComponent bytes 0 4))[decimalComponent bytes 5 2 - 1]?,
          decimalComponent bytes 8 2 ≤ length) ∧
      decimalComponent bytes 11 2 ≤ 23 ∧ decimalComponent bytes 14 2 ≤ 59 ∧
      decimalComponent bytes 17 2 ≤ 60 := by
  simp only [inRange, within, Bool.and_eq_true, decide_eq_true_eq]
  constructor
  · rintro ⟨⟨⟨⟨hmonth, hday⟩, hhour⟩, hminute⟩, hsecond⟩
    refine ⟨hmonth, ⟨hday.1, ?_⟩, hhour, hminute, hsecond⟩
    rw [lookup_monthLengths hmonth]
    intro length hlength
    rw [← Option.some_inj.mp hlength]
    exact hday.2
  · rintro ⟨hmonth, hday, hhour, hminute, hsecond⟩
    rw [lookup_monthLengths hmonth] at hday
    exact ⟨⟨⟨⟨hmonth, hday.1, hday.2 _ rfl⟩, hhour⟩, hminute⟩, hsecond⟩

lemma Shaped.eq_fields (h : Shaped bytes) :
    bytes = decimalDigits 4 (decimalComponent bytes 0 4) ++
      0x2D :: (decimalDigits 2 (decimalComponent bytes 5 2) ++
        0x2D :: (decimalDigits 2 (decimalComponent bytes 8 2) ++
          0x54 :: (decimalDigits 2 (decimalComponent bytes 11 2) ++
            0x3A :: (decimalDigits 2 (decimalComponent bytes 14 2) ++
              0x3A :: (decimalDigits 2 (decimalComponent bytes 17 2) ++ bytes.drop 19))))) := by
  obtain ⟨h4, h7, h10, h13, h16⟩ := h.separators
  have hchain := (drop_of_asciiDigits h.year).1
  rw [getElem?_eq_some_iff_drop.mp h4, (drop_of_asciiDigits h.month).1,
    getElem?_eq_some_iff_drop.mp h7, (drop_of_asciiDigits h.day).1,
    getElem?_eq_some_iff_drop.mp h10, (drop_of_asciiDigits h.hour).1,
    getElem?_eq_some_iff_drop.mp h13, (drop_of_asciiDigits h.minute).1,
    getElem?_eq_some_iff_drop.mp h16, (drop_of_asciiDigits h.second).1] at hchain
  exact hchain

lemma exists_dateTime (hshaped : Shaped bytes) (hrange : inRange bytes = true)
    (htail : validTail bytes = true) : ∃ d : DateTime, bytes = d.render := by
  obtain ⟨hmonth, hday, hhour, hminute, hsecond⟩ := inRange_iff.mp hrange
  obtain ⟨fraction, zone, hdigits, hdrop⟩ := validTail_iff.mp htail
  have hyear : decimalComponent bytes 0 4 ≤ 9999 :=
    Nat.le_of_lt_succ (drop_of_asciiDigits hshaped.year).2
  refine ⟨⟨_, _, _, _, _, _, fraction, zone, hyear, hmonth, hday, hhour, hminute, hsecond,
    hdigits⟩, ?_⟩
  have hfields := hshaped.eq_fields
  rw [hdrop] at hfields
  exact hfields

/-- The bytes of a rendered text, of which none is a space. -/
def printsDigitsAndMarks (b : UInt8) : Prop :=
  0x2B ≤ b.toNat

lemma printsDigitsAndMarks_of_digit (h : isAsciiDigit b = true) : printsDigitsAndMarks b := by
  obtain ⟨hlow, -⟩ := isAsciiDigit_iff.mp h
  show 0x2B ≤ b.toNat
  omega

lemma Zone.prints (zone : Zone) : ∀ b ∈ zone.render, printsDigitsAndMarks b := by
  intro b hb
  cases zone with
  | utc =>
    obtain rfl := List.mem_singleton.mp hb
    exact Nat.le_of_ble_eq_true rfl
  | offset west hour minute =>
    rw [render, List.mem_cons, List.mem_append, List.mem_cons] at hb
    rcases hb with rfl | hb | rfl | hb
    · cases west with
      | false => exact Nat.le_of_ble_eq_true rfl
      | true => exact Nat.le_of_ble_eq_true rfl
    · exact printsDigitsAndMarks_of_digit (isAsciiDigit_of_mem_decimalDigits hb)
    · exact Nat.le_of_ble_eq_true rfl
    · exact printsDigitsAndMarks_of_digit (isAsciiDigit_of_mem_decimalDigits hb)

lemma DateTime.prints (d : DateTime) : ∀ b ∈ d.render, printsDigitsAndMarks b := by
  have hdigits (width n : ℕ) : ∀ b ∈ decimalDigits width n, printsDigitsAndMarks b :=
    fun b hb => printsDigitsAndMarks_of_digit (isAsciiDigit_of_mem_decimalDigits hb)
  have hfraction : ∀ b ∈ d.fraction.elim [] (0x2E :: ·), printsDigitsAndMarks b := by
    intro b hb
    cases hf : d.fraction with
    | none =>
      rw [hf] at hb
      cases hb
    | some digits =>
      rw [hf, Option.elim_some, List.mem_cons] at hb
      rcases hb with rfl | hb
      · exact Nat.le_of_ble_eq_true rfl
      · exact printsDigitsAndMarks_of_digit ((d.fraction_digits digits hf).2 b hb)
  have hmarks : printsDigitsAndMarks 0x2D ∧ printsDigitsAndMarks 0x3A ∧
      printsDigitsAndMarks 0x54 :=
    ⟨Nat.le_of_ble_eq_true rfl, Nat.le_of_ble_eq_true rfl, Nat.le_of_ble_eq_true rfl⟩
  simp only [render, List.forall_mem_append, List.forall_mem_cons]
  exact ⟨hdigits _ _, hmarks.1, hdigits _ _, hmarks.1, hdigits _ _, hmarks.2.2, hdigits _ _,
    hmarks.2.1, hdigits _ _, hmarks.2.1, hdigits _ _, hfraction, d.zone.prints⟩

lemma DateTime.any_isAsciiWhitespace (d : DateTime) : d.render.any isAsciiWhitespace = false := by
  rw [List.any_eq_false]
  intro b hb hspace
  have hle : 0x2B ≤ b.toNat := d.prints b hb
  have hsmall : b.toNat ≤ 0x20 := by
    simp only [isAsciiWhitespace, Bool.or_eq_true, beq_iff_eq] at hspace
    rcases hspace with (((rfl | rfl) | rfl) | rfl) | rfl
    all_goals decide
  omega

lemma DateTime.length_render (d : DateTime) : 20 ≤ d.render.length := by
  obtain ⟨first, rest, hzone, -, -⟩ := d.zone.render_eq_cons
  simp only [render, List.length_append, List.length_cons, length_decimalDigits, hzone]
  omega

lemma accepts_render (d : DateTime) (hlength : d.render.length ≤ 64) :
    Shaped d.render ∧ inRange d.render = true ∧ validTail d.render = true := by
  have hmonth : d.month < 10 ^ 2 := lt_of_le_of_lt d.month_mem.2 (by decide)
  have hday : d.day < 10 ^ 2 :=
    lt_of_le_of_lt (d.day_mem.2 _ (lookup_monthLengths d.month_mem)) (daysInMonth_lt _ _)
  have hstart : d.render.drop 0 = d.render := rfl
  obtain ⟨hyear, hyear', h4⟩ := asciiDigits_of_drop hstart (Nat.lt_succ_of_le d.year_le)
  obtain ⟨h4, h5⟩ := drop_of_drop_cons h4
  obtain ⟨hm, hm', h7⟩ := asciiDigits_of_drop h5 hmonth
  obtain ⟨h7, h8⟩ := drop_of_drop_cons h7
  obtain ⟨hd, hd', h10⟩ := asciiDigits_of_drop h8 hday
  obtain ⟨h10, h11⟩ := drop_of_drop_cons h10
  obtain ⟨hh, hh', h13⟩ := asciiDigits_of_drop h11 (lt_of_le_of_lt d.hour_le (by decide))
  obtain ⟨h13, h14⟩ := drop_of_drop_cons h13
  obtain ⟨hmin, hmin', h16⟩ := asciiDigits_of_drop h14 (lt_of_le_of_lt d.minute_le (by decide))
  obtain ⟨h16, h17⟩ := drop_of_drop_cons h16
  obtain ⟨hs, hs', h19⟩ := asciiDigits_of_drop h17 (lt_of_le_of_lt d.second_le (by decide))
  refine ⟨?_, ?_, validTail_iff.mpr ⟨d.fraction, d.zone, d.fraction_digits, h19⟩⟩
  · exact ⟨hlength, d.length_render, d.any_isAsciiWhitespace, ⟨h4, h7, h10, h13, h16⟩, hyear, hm,
      hd, hh, hmin, hs⟩
  · rw [inRange_iff, hyear', hm', hd', hh', hmin', hs']
    exact ⟨d.month_mem, d.day_mem, d.hour_le, d.minute_le, d.second_le⟩

end Texts

/-- **Timestamps**: no text makes the check panic, and it accepts the texts of at most 64 bytes of
the date-times. -/
theorem timestamps_accepted (value : String) :
    scanTimestamp value = .ok (validTimestamp value) ∧
      (validTimestamp value = true ↔
        20 ≤ (asBytes value).length ∧ (asBytes value).length ≤ 64 ∧
          ∃ d : DateTime, asBytes value = d.render) := by
  refine ⟨scanTimestamp_eq value, ?_⟩
  rw [validTimestamp_iff_parts]
  constructor
  · rintro ⟨hshaped, hrange, htail⟩
    exact ⟨hshaped.leLength, hshaped.lengthLe, exists_dateTime hshaped hrange htail⟩
  · rintro ⟨-, hlength, d, hd⟩
    rw [hd] at hlength ⊢
    exact accepts_render d hlength

end JaDesktop.Host
