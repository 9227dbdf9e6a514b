import DocumentQuery.Decimal.Double
import Mathlib.Algebra.Field.Rat
import Mathlib.Algebra.Order.Field.Power
import Mathlib.Data.Nat.Cast.Field
import Mathlib.Data.Rat.Cast.Order

namespace DocumentQuery
namespace Decimal

/-!
# The exact value as a rational number

A finite double is a rational number.  What is read off its significand, its exponent and its sign
in integers is what holds of that number: it is an integer exactly if the bits say so, and then it
is the one that the double truncates to.  The range of 64-bit integers comes in only then, and puts
an integer outside of it at the end that it is beyond.
-/

/-- The number that a magnitude is. -/
def Binary.exactValue (b : Binary) : ℚ :=
  b.significand * 2 ^ b.exponent

/-- The number that a magnitude with a sign is. -/
def Binary.signed (b : Binary) (negative : Bool) : ℚ :=
  if negative then -b.exactValue else b.exactValue

/-- The number that a finite double is. -/
def exactValue (x : Float) : ℚ :=
  (magnitude x).signed (isNegative x)

namespace Binary

variable {b : Binary} {k : Nat}

theorem exactValue_of_nonneg (exponent : b.exponent = k) :
    b.exactValue = (b.significand * 2 ^ k : Nat) := by
  rw [exactValue, exponent, zpow_natCast]
  push_cast
  rfl

theorem exactValue_of_neg (exponent : b.exponent = -k) :
    b.exactValue = b.significand / (2 ^ k : Nat) := by
  rw [exactValue, exponent, zpow_neg, zpow_natCast, div_eq_mul_inv]
  push_cast
  rfl

theorem exists_exponent_eq_neg (negative : ¬ 0 ≤ b.exponent) : ∃ k : Nat, b.exponent = -k :=
  ⟨(-b.exponent).toNat, by omega⟩

theorem isIntegral_iff_dvd (negative : ¬ 0 ≤ b.exponent) (exponent : b.exponent = -k) :
    b.isIntegral = true ↔ 2 ^ k ∣ b.significand := by
  rw [isIntegral, decide_eq_false negative, Bool.false_or, beq_iff_eq, exponent, Int.neg_neg,
    Nat.dvd_iff_mod_eq_zero]
  rfl

/-- The bits of an integer say that it is one. -/
theorem isIntegral_of_exactValue {z : ℤ} (integer : b.exactValue = z) : b.isIntegral = true := by
  by_cases nonneg : 0 ≤ b.exponent
  · rw [isIntegral, decide_eq_true nonneg, Bool.true_or]
  · rcases exists_exponent_eq_neg nonneg with ⟨k, exponent⟩
    have power_ne : ((2 ^ k : Nat) : ℚ) ≠ 0 := by exact_mod_cast (Nat.two_pow_pos k).ne'
    rw [exactValue_of_neg exponent, div_eq_iff power_ne] at integer
    have multiple : (b.significand : ℤ) = z * (2 ^ k : Nat) := by exact_mod_cast integer
    rw [isIntegral_iff_dvd nonneg exponent]
    exact Int.natCast_dvd_natCast.mp (multiple ▸ Int.dvd_mul_left _ _)

/-- A magnitude whose bits say that it is an integer is the integer below it. -/
theorem exactValue_eq_floor (integral : b.isIntegral = true) : b.exactValue = b.floor := by
  by_cases nonneg : 0 ≤ b.exponent
  · rcases Int.eq_ofNat_of_zero_le nonneg with ⟨k, exponent⟩
    rw [exactValue_of_nonneg exponent, floor, if_pos nonneg, exponent]
    rfl
  · rcases exists_exponent_eq_neg nonneg with ⟨k, exponent⟩
    have power_ne : ((2 ^ k : Nat) : ℚ) ≠ 0 := by exact_mod_cast (Nat.two_pow_pos k).ne'
    rw [exactValue_of_neg exponent, floor, if_neg nonneg, exponent, Int.neg_neg]
    exact (Nat.cast_div ((isIntegral_iff_dvd nonneg exponent).mp integral) power_ne).symm

end Binary

variable {x : Float} {z : ℤ}

theorem isIntegral_of_exactValue (finite : x.isFinite = true) (integer : exactValue x = z) :
    isIntegral x = true := by
  have magnitude_integer : ∃ z : ℤ, (magnitude x).exactValue = z := by
    rw [exactValue, Binary.signed] at integer
    split at integer
    · exact ⟨-z, by rw [Int.cast_neg, ← integer, neg_neg]⟩
    · exact ⟨z, integer⟩
  rcases magnitude_integer with ⟨_, integer⟩
  rw [isIntegral, finite, Binary.isIntegral_of_exactValue integer, Bool.true_and]

theorem exactValue_eq_truncate (integral : isIntegral x = true) : exactValue x = truncate x := by
  rcases Bool.and_eq_true_iff.mp integral with ⟨finite, integral⟩
  rw [exactValue, Binary.signed, truncate, if_pos finite, Binary.exactValue_eq_floor integral]
  split
  · push_cast
    rfl
  · rfl

/-! ## The range of 64-bit integers -/

theorem clampInt64_toInt (z : ℤ) : (clampInt64 z).toInt = max (-2 ^ 63) (min z (2 ^ 63 - 1)) := by
  rw [clampInt64]
  split
  case isTrue below =>
    change (-9223372036854775808 : ℤ) = _
    omega
  case isFalse notBelow =>
    split
    case isTrue above =>
      change (9223372036854775807 : ℤ) = _
      omega
    case isFalse notAbove =>
      rw [Int64.toInt_ofInt_of_le (by omega) (by omega)]
      omega

/-- Being put into the range changes an integer exactly if it is outside. -/
theorem clampInt64_toInt_eq_iff : (clampInt64 z).toInt = z ↔ -2 ^ 63 ≤ z ∧ z < 2 ^ 63 := by
  rw [clampInt64_toInt]
  omega

theorem not_isNaN_isInf (finite : x.isFinite = true) : x.isNaN = false ∧ x.isInf = false := by
  change x.toModel.unpack.isFinite = true at finite
  change x.toModel.unpack.isNaN = false ∧ x.toModel.unpack.isInf = false
  generalize x.toModel.unpack = unpacked at finite ⊢
  cases unpacked with
  | finite _ _ _ => exact ⟨rfl, rfl⟩
  | zero _ => exact ⟨rfl, rfl⟩
  | notANumber => exact absurd finite Bool.false_ne_true
  | infinity _ => exact absurd finite Bool.false_ne_true

/-- An integral double becomes the 64-bit integer that is nearest to its value. -/
theorem toInt64_of_exactValue (finite : x.isFinite = true) (integer : exactValue x = z) :
    toInt64 x = clampInt64 z := by
  have integral := isIntegral_of_exactValue finite integer
  have truncate_eq : truncate x = z := by
    exact_mod_cast (exactValue_eq_truncate integral).symm.trans integer
  rcases not_isNaN_isInf finite with ⟨number, bounded⟩
  rw [toInt64, number, bounded, truncate_eq]
  rfl

end Decimal
end DocumentQuery
