import DocumentQuery.Proofs.Decimal.ExactValue
import DocumentQuery.Value.Basic
import Mathlib

namespace DocumentQuery
namespace Decimal

open Float.Model UnpackedFloat

/-!
# Doubles compare by their exact values

Two doubles are compared by the fields of their bits: first the signs, then the exponents, then the
significands.  This is the order of the numbers that they are, because the significand of a double
has its first bit set unless the exponent is the least one, so that a larger exponent outweighs
every significand.  Both zeros are the same number, and only NaN and the infinities are left out.
-/

/-! ## The fields of a double -/

section

variable (bits : BitVec Format.binary64.numBits)

theorem unpackMantissa_toNat : (unpackMantissa bits).toNat = bits.toNat % 0x10000000000000 := by
  rw [unpackMantissa, BitVec.toNat_cast, BitVec.extractLsb_toNat]
  rfl

theorem unpackExponent_toNat :
    (unpackExponent bits).toNat = bits.toNat / 0x10000000000000 % 0x800 := by
  rw [unpackExponent, BitVec.toNat_cast, BitVec.extractLsb_toNat, Nat.shiftRight_eq_div_pow]
  rfl

theorem unpackSign_toNat : (unpackSign bits).toNat = bits.toNat / 0x8000000000000000 := by
  rw [unpackSign, BitVec.toNat_cast, BitVec.extractLsb_toNat, Nat.shiftRight_eq_div_pow]
  have bound : bits.toNat < 0x10000000000000000 := bits.isLt
  change bits.toNat / 0x8000000000000000 % 2 = _
  omega

theorem toNat_leadingOne (mantissa : BitVec 52) :
    (1#1 ++ mantissa).toNat = 0x10000000000000 + mantissa.toNat := by
  rw [BitVec.toNat_append, ← Nat.shiftLeft_add_eq_or_of_lt mantissa.isLt]
  rfl

def signOf (negative : Bool) : Sign :=
  if negative then .negative else .positive

theorem ofBitVec_unpackSign :
    Sign.ofBitVec (unpackSign bits) = signOf (bits.toNat / 0x8000000000000000 == 1) := by
  rw [← unpackSign_toNat]
  rcases BitVec.eq_zero_or_eq_one (unpackSign bits) with zero | one
  · rw [zero]
    rfl
  · rw [one]
    rfl

end

/-- A magnitude with a sign, in the form that doubles are calculated with. -/
def Binary.unpacked (b : Binary) (negative : Bool) : UnpackedFloat :=
  if zero : b.significand = 0 then .zero (signOf negative)
  else .finite (signOf negative) b.significand b.exponent (Nat.pos_of_ne_zero zero)

theorem Binary.unpacked_eq_finite {b : Binary} {negative : Bool} {s : Sign} {m : Nat} {e : Int}
    {pos : 0 < m} (sign : s = signOf negative) (significand : m = b.significand)
    (exponent : e = b.exponent) : .finite s m e pos = b.unpacked negative := by
  subst sign significand exponent
  rw [unpacked, dif_neg pos.ne']

/-- What is calculated with is the number that the magnitude with its sign is. -/
theorem Binary.signed_of_unpacked {b : Binary} {negative : Bool} {s : Sign} {m : Nat} {e : Int}
    {pos : 0 < m} (unpacked_eq : b.unpacked negative = .finite s m e pos) :
    b.signed negative = (s.apply m : ℤ) * 2 ^ e := by
  rw [unpacked] at unpacked_eq
  split at unpacked_eq
  case isTrue => exact nomatch unpacked_eq
  case isFalse =>
    injection unpacked_eq with sign significand exponent
    subst sign significand exponent
    cases negative with
    | false => rfl
    | true =>
        change -(_ * _) = ((-(b.significand : ℤ) : ℤ) : ℚ) * _
        rw [Int.cast_neg, neg_mul]
        rfl

/-- A finite double is calculated with as the magnitude and the sign of its bits. -/
theorem unpack_eq_unpacked {x : Float} (finite : x.isFinite = true) :
    x.toModel.unpack = (magnitude x).unpacked (isNegative x) := by
  let bits : BitVec Format.binary64.numBits := x.toModel.toBits.toBitVec
  have mantissa := unpackMantissa_toNat bits
  have exponent := unpackExponent_toNat bits
  have sign : Sign.ofBitVec (unpackSign bits) = signOf (isNegative x) := ofBitVec_unpackSign bits
  change (UnpackedFloat.unpack Format.binary64 bits).isFinite = true at finite
  change UnpackedFloat.unpack Format.binary64 bits = (Binary.ofBits ⟨bits⟩).unpacked (isNegative x)
  simp only [UnpackedFloat.unpack] at finite ⊢
  split
  case isTrue outside =>
    rw [if_pos outside] at finite
    split at finite <;> exact absurd finite Bool.false_ne_true
  case isFalse _ =>
    split
    case isTrue lowest =>
      have scale : bits.toNat / 0x10000000000000 % 0x800 = 0 := by
        rw [← exponent, lowest]
        rfl
      have magnitude_eq : Binary.ofBits ⟨bits⟩ = ⟨(unpackMantissa bits).toNat, -1074, false⟩ := by
        rw [mantissa]
        exact if_pos scale
      rw [magnitude_eq]
      split
      case isTrue zero =>
        rw [zero, sign]
        rfl
      case isFalse _ =>
        refine Binary.unpacked_eq_finite sign rfl ?_
        rw [lowest]
        rfl
    case isFalse higher =>
      have scale : bits.toNat / 0x10000000000000 % 0x800 ≠ 0 := by
        rw [← exponent]
        exact fun zero => higher (BitVec.eq_of_toNat_eq zero)
      have magnitude_eq : Binary.ofBits ⟨bits⟩ = _ := if_neg scale
      rw [magnitude_eq]
      refine Binary.unpacked_eq_finite sign ?_ ?_
      · rw [toNat_leadingOne, mantissa]
        rfl
      · rw [exponent]
        rfl

/-! ## The order of magnitudes -/

namespace Binary

/-- The form of the magnitudes of doubles: at most 53 bits, the first of which is set unless the
exponent is the least one. -/
structure Canonical (b : Binary) : Prop where
  lt : b.significand < 2 ^ 53
  least : -1074 ≤ b.exponent
  leading : b.exponent ≠ -1074 → 2 ^ 52 ≤ b.significand

theorem canonical_ofBits (bits : UInt64) : (ofBits bits).Canonical := by
  rw [ofBits]
  split
  case isTrue lowest =>
    exact ⟨by dsimp only; omega, le_rfl, fun other => absurd rfl other⟩
  case isFalse higher =>
    exact ⟨by dsimp only; omega, by dsimp only; omega, fun _ => Nat.le_add_right _ _⟩

variable {a b : Binary}

theorem exactValue_eq_zero (zero : b.significand = 0) : b.exactValue = 0 := by
  rw [exactValue, zero, Nat.cast_zero, zero_mul]

theorem exactValue_pos (nonzero : b.significand ≠ 0) : 0 < b.exactValue :=
  mul_pos (Nat.cast_pos.mpr (Nat.pos_of_ne_zero nonzero)) (zpow_pos two_pos _)

/-- The larger exponent outweighs every significand. -/
theorem exactValue_lt_of_exponent_lt (canonicalLeft : a.Canonical) (canonicalRight : b.Canonical)
    (exponents : a.exponent < b.exponent) : a.exactValue < b.exactValue := by
  have leading : 2 ^ 52 ≤ b.significand := by
    have least := canonicalLeft.least
    exact canonicalRight.leading (by omega)
  calc a.exactValue
      < 2 ^ 53 * 2 ^ a.exponent :=
        mul_lt_mul_of_pos_right (by exact_mod_cast canonicalLeft.lt) (zpow_pos two_pos _)
    _ = 2 ^ 52 * 2 ^ (a.exponent + 1) := by
        rw [zpow_add_one₀ two_ne_zero, pow_succ (2 : ℚ) 52, mul_assoc, mul_comm (2 : ℚ)]
    _ ≤ 2 ^ 52 * 2 ^ b.exponent :=
        mul_le_mul_of_nonneg_left (zpow_le_zpow_right₀ one_le_two exponents)
          (pow_nonneg zero_le_two _)
    _ ≤ b.exactValue :=
        mul_le_mul_of_nonneg_right (by exact_mod_cast leading) (zpow_nonneg zero_le_two _)

theorem exactValue_lt_iff_of_exponent_eq (exponents : a.exponent = b.exponent) :
    a.exactValue < b.exactValue ↔ a.significand < b.significand := by
  rw [exactValue, exactValue, exponents, mul_lt_mul_iff_left₀ (zpow_pos two_pos _), Nat.cast_lt]

/-- Magnitudes compare by exponents first. -/
theorem compare_exactValue (canonicalLeft : a.Canonical) (canonicalRight : b.Canonical) :
    compare a.exactValue b.exactValue =
      (compare a.exponent b.exponent).then (compare a.significand b.significand) := by
  rcases lt_trichotomy a.exponent b.exponent with less | equal | greater
  · rw [compare_lt_iff_lt.mpr less]
    exact compare_lt_iff_lt.mpr (exactValue_lt_of_exponent_lt canonicalLeft canonicalRight less)
  · rw [compare_eq_iff_eq.mpr equal]
    change compare a.exactValue b.exactValue = compare a.significand b.significand
    rcases lt_trichotomy a.significand b.significand with less | same | greater
    · rw [compare_lt_iff_lt.mpr less, compare_lt_iff_lt, exactValue_lt_iff_of_exponent_eq equal]
      exact less
    · rw [compare_eq_iff_eq.mpr same, compare_eq_iff_eq, exactValue, exactValue, equal, same]
    · rw [compare_gt_iff_gt.mpr greater, compare_gt_iff_gt]
      exact (exactValue_lt_iff_of_exponent_eq equal.symm).mpr greater
  · rw [compare_gt_iff_gt.mpr greater]
    exact compare_gt_iff_gt.mpr (exactValue_lt_of_exponent_lt canonicalRight canonicalLeft greater)

theorem signed_eq_zero (zero : b.significand = 0) (negative : Bool) : b.signed negative = 0 := by
  rw [signed, exactValue_eq_zero zero, neg_zero, ite_self]

theorem compare_neg (x y : ℚ) : compare (-x) (-y) = (compare x y).swap := by
  rw [← cmp_eq_compare, ← cmp_eq_compare, cmp_swap]
  exact StrictAnti.cmp_map_eq (fun _ _ => neg_lt_neg) x y

/-- Unpacked magnitudes with signs compare as the numbers that they are. -/
theorem compare_unpacked (canonicalLeft : a.Canonical) (canonicalRight : b.Canonical)
    (left right : Bool) : (a.unpacked left).compare (b.unpacked right) =
      some (compare (a.signed left) (b.signed right)) := by
  have order := compare_exactValue canonicalLeft canonicalRight
  rw [unpacked, unpacked]
  by_cases zeroLeft : a.significand = 0
  · by_cases zeroRight : b.significand = 0
    · rw [dif_pos zeroLeft, dif_pos zeroRight, signed_eq_zero zeroLeft, signed_eq_zero zeroRight]
      exact congrArg some (compare_eq_iff_eq.mpr rfl).symm
    · have positive := exactValue_pos zeroRight
      rw [dif_pos zeroLeft, dif_neg zeroRight, signed_eq_zero zeroLeft]
      cases right with
      | false => exact congrArg some (compare_lt_iff_lt.mpr positive).symm
      | true => exact congrArg some (compare_gt_iff_gt.mpr (neg_lt_zero.mpr positive)).symm
  · have positive := exactValue_pos zeroLeft
    by_cases zeroRight : b.significand = 0
    · rw [dif_neg zeroLeft, dif_pos zeroRight, signed_eq_zero zeroRight]
      cases left with
      | false => exact congrArg some (compare_gt_iff_gt.mpr positive).symm
      | true => exact congrArg some (compare_lt_iff_lt.mpr (neg_lt_zero.mpr positive)).symm
    · have negative := neg_lt_zero.mpr positive
      have positiveRight := exactValue_pos zeroRight
      have negativeRight := neg_lt_zero.mpr positiveRight
      rw [dif_neg zeroLeft, dif_neg zeroRight]
      cases left with
      | false =>
          cases right with
          | false => exact congrArg some order.symm
          | true => exact congrArg some (compare_gt_iff_gt.mpr (negativeRight.trans positive)).symm
      | true =>
          cases right with
          | false => exact congrArg some (compare_lt_iff_lt.mpr (negative.trans positiveRight)).symm
          | true =>
              change some ((compare a.exponent b.exponent).then _).swap = some (compare (-_) (-_))
              rw [compare_neg, order]

end Binary

/-! ## The order of doubles -/

variable {x y : Float}

theorem compare_unpack (finiteLeft : x.isFinite = true) (finiteRight : y.isFinite = true) :
    x.toModel.unpack.compare y.toModel.unpack = some (compare (exactValue x) (exactValue y)) := by
  rw [unpack_eq_unpacked finiteLeft, unpack_eq_unpacked finiteRight]
  exact Binary.compare_unpacked (Binary.canonical_ofBits _) (Binary.canonical_ofBits _) _ _

theorem compare_unpack_of_isNaN (noNumber : y.isNaN = true) :
    x.toModel.unpack.compare y.toModel.unpack = none ∧
      y.toModel.unpack.compare x.toModel.unpack = none := by
  change y.toModel.unpack.isNaN = true at noNumber
  cases unpacked : y.toModel.unpack with
  | notANumber =>
      refine ⟨?_, rfl⟩
      cases x.toModel.unpack <;> rfl
  | _ =>
      rw [unpacked] at noNumber
      exact nomatch noNumber

theorem lt_iff_unpack : x < y ↔ x.toModel.unpack.compare y.toModel.unpack = some .lt :=
  decide_eq_true_iff.trans beq_iff_eq

theorem beq_iff_unpack :
    (x == y) = true ↔ x.toModel.unpack.compare y.toModel.unpack = some .eq := by
  change (x.toModel.unpack.compare y.toModel.unpack == some .eq) = true ↔ _
  rw [beq_iff_eq]

theorem lt_iff (finiteLeft : x.isFinite = true) (finiteRight : y.isFinite = true) :
    x < y ↔ exactValue x < exactValue y := by
  rw [lt_iff_unpack, compare_unpack finiteLeft finiteRight, Option.some_inj, compare_lt_iff_lt]

theorem beq_iff (finiteLeft : x.isFinite = true) (finiteRight : y.isFinite = true) :
    (x == y) = true ↔ exactValue x = exactValue y := by
  rw [beq_iff_unpack, compare_unpack finiteLeft finiteRight, Option.some_inj, compare_eq_iff_eq]

end Decimal

/-- Finite doubles are in the order of the numbers that they are. -/
theorem Value.compareFloats_eq {x y : Float} (finiteLeft : x.isFinite = true)
    (finiteRight : y.isFinite = true) : Value.compareFloats x y =
      some (compare (Decimal.exactValue x) (Decimal.exactValue y)) := by
  have less := Decimal.lt_iff finiteLeft finiteRight
  have same := Decimal.beq_iff finiteLeft finiteRight
  have greater := Decimal.lt_iff finiteRight finiteLeft
  rw [Value.compareFloats]
  rcases lt_trichotomy (Decimal.exactValue x) (Decimal.exactValue y) with lt | eq | gt
  · rw [if_pos (less.mpr lt), compare_lt_iff_lt.mpr lt]
  · rw [if_neg (mt less.mp eq.not_lt), if_pos (same.mpr eq), compare_eq_iff_eq.mpr eq]
  · rw [if_neg (mt less.mp gt.not_gt), if_neg (mt same.mp gt.ne'), if_pos (greater.mpr gt),
      compare_gt_iff_gt.mpr gt]

/-- A double that is not a number has no order with any double. -/
theorem Value.compareFloats_of_isNaN {x y : Float} (noNumber : y.isNaN = true) :
    Value.compareFloats x y = none := by
  rcases Decimal.compare_unpack_of_isNaN (x := x) noNumber with ⟨unordered, unordered'⟩
  rw [Value.compareFloats, if_neg, if_neg, if_neg]
  · rw [Decimal.lt_iff_unpack, unordered']
    exact nofun
  · rw [Decimal.beq_iff_unpack, unordered]
    exact nofun
  · rw [Decimal.lt_iff_unpack, unordered]
    exact nofun

end DocumentQuery
