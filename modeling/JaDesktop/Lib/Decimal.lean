import Mathlib.Algebra.Order.Ring.Int
import JaDesktop.Lib.Text
import Mathlib.Data.List.Induction

/-!
# Decimal fields of fixed width

The ASCII digits of a number in a field of fixed width, and the number of such a field.
-/

namespace JaDesktop

/-- The last digits of a number, so many as the field is wide. -/
def decimalDigits : ℕ → ℕ → List UInt8
  | 0, _ => []
  | width + 1, n => decimalDigits width (n / 10) ++ [UInt8.ofNat (0x30 + n % 10)]

/-- The number of a field. -/
def decimalValue (digits : List UInt8) : ℕ :=
  digits.foldl (fun value digit => value * 10 + (digit.toNat - 0x30)) 0

variable {digits : List UInt8} {width n : ℕ}

lemma decimalValue_concat (digits : List UInt8) (digit : UInt8) :
    decimalValue (digits ++ [digit]) = decimalValue digits * 10 + (digit.toNat - 0x30) := by
  rw [decimalValue, List.foldl_append]
  rfl

@[simp] lemma length_decimalDigits (width n : ℕ) : (decimalDigits width n).length = width := by
  induction width generalizing n with
  | zero => rfl
  | succ width ih => rw [decimalDigits, List.length_append, ih, List.length_singleton]

lemma isAsciiDigit_iff {b : UInt8} : isAsciiDigit b = true ↔ 0x30 ≤ b.toNat ∧ b.toNat ≤ 0x39 := by
  rw [isAsciiDigit, Bool.and_eq_true, decide_eq_true_eq, decide_eq_true_eq, UInt8.le_iff_toNat_le,
    UInt8.le_iff_toNat_le]
  rfl

lemma toNat_digit (n : ℕ) : (UInt8.ofNat (0x30 + n % 10)).toNat = 0x30 + n % 10 := by
  rw [UInt8.toNat_ofNat']
  omega

lemma isAsciiDigit_of_mem_decimalDigits {b : UInt8} (h : b ∈ decimalDigits width n) :
    isAsciiDigit b = true := by
  induction width generalizing n with
  | zero => cases h
  | succ width ih =>
    rw [decimalDigits, List.mem_append, List.mem_singleton] at h
    rcases h with h | rfl
    · exact ih h
    · rw [isAsciiDigit_iff, toNat_digit]
      omega

lemma decimalValue_decimalDigits (h : n < 10 ^ width) :
    decimalValue (decimalDigits width n) = n := by
  induction width generalizing n with
  | zero =>
    rw [Nat.lt_one_iff.mp h]
    rfl
  | succ width ih =>
    have hrest : n / 10 < 10 ^ width := by
      rw [Nat.div_lt_iff_lt_mul (by decide)]
      exact h
    rw [decimalDigits, decimalValue_concat, ih hrest, toNat_digit]
    omega

lemma decimalDigits_decimalValue (h : ∀ b ∈ digits, isAsciiDigit b = true) :
    decimalDigits digits.length (decimalValue digits) = digits ∧
      decimalValue digits < 10 ^ digits.length := by
  induction digits using List.reverseRecOn with
  | nil => exact ⟨rfl, by decide⟩
  | append_singleton digits digit ih =>
    obtain ⟨hdigits, hlt⟩ := ih fun b hb => h b (List.mem_append_left _ hb)
    obtain ⟨hlow, hhigh⟩ := isAsciiDigit_iff.mp (h digit (List.mem_append_right _ (by simp)))
    rw [decimalValue_concat, List.length_append, List.length_singleton]
    constructor
    · have hdiv : (decimalValue digits * 10 + (digit.toNat - 0x30)) / 10 = decimalValue digits := by
        omega
      have hmod : 0x30 + (decimalValue digits * 10 + (digit.toNat - 0x30)) % 10 = digit.toNat := by
        omega
      rw [decimalDigits, hdiv, hdigits, hmod, UInt8.ofNat_toNat]
    · rw [Nat.pow_succ]
      omega

lemma decimalDigits_append_le {width a b : ℕ} (ha : a < 10 ^ width) (hb : b < 10 ^ width)
    (p q : List UInt8) :
    decimalDigits width a ++ p ≤ decimalDigits width b ++ q ↔ a < b ∨ a = b ∧ p ≤ q := by
  induction width generalizing a b p q with
  | zero =>
    rw [Nat.pow_zero] at ha hb
    obtain rfl : a = b := by omega
    simp [decimalDigits]
  | succ width ih =>
    rw [Nat.pow_succ] at ha hb
    have hdigit : (UInt8.ofNat (0x30 + a % 10) < UInt8.ofNat (0x30 + b % 10) ↔ a % 10 < b % 10) ∧
        (UInt8.ofNat (0x30 + a % 10) = UInt8.ofNat (0x30 + b % 10) ↔ a % 10 = b % 10) := by
      rw [UInt8.lt_iff_toNat_lt, ← UInt8.toNat_inj, toNat_digit, toNat_digit]
      omega
    rw [decimalDigits, decimalDigits, List.append_assoc, List.append_assoc,
      ih (by omega) (by omega), List.singleton_append, List.singleton_append,
      List.cons_le_cons_iff, hdigit.1, hdigit.2]
    constructor
    · rintro (hless | ⟨hsame, hless | ⟨hlast, hle⟩⟩)
      · exact Or.inl (by omega)
      · exact Or.inl (by omega)
      · exact Or.inr ⟨by omega, hle⟩
    · rintro (hless | ⟨rfl, hle⟩)
      · rcases Nat.lt_or_ge (a / 10) (b / 10) with hbefore | hbehind
        · exact Or.inl hbefore
        · exact Or.inr ⟨by omega, Or.inl (by omega)⟩
      · exact Or.inr ⟨rfl, Or.inr ⟨rfl, hle⟩⟩

end JaDesktop
