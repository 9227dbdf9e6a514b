import Mathlib.Algebra.Order.Monoid.Unbundled.Basic
import Mathlib.Tactic.Linarith

namespace DocumentQuery
namespace Decimal

/-!
# Integers with 53 bits

A double holds 53 significant bits.  An integer with more of them becomes the nearest number whose
further bits are zeros, and of two that are equally near the one whose last significant bit is zero.
Here this number is given in integers, without doubles.  Rounding keeps the order of integers, but
it may take two neighbours to the same number; it changes nothing up to the 53rd power of two.
-/

/-- `n / 2 ^ k` rounded to the nearest integer, and to the even one of two that are equally near. -/
def halfEven (n k : Nat) : Nat :=
  if 2 * (n % 2 ^ k) < 2 ^ k ∨ (2 * (n % 2 ^ k) = 2 ^ k ∧ n / 2 ^ k % 2 = 0) then n / 2 ^ k
  else n / 2 ^ k + 1

/-- How many bits a number has beyond the first 53. -/
def excess (n : Nat) : Nat :=
  n.log2 - 52

/-- The nearest number whose bits beyond the first 53 are zeros. -/
def nearestNat (n : Nat) : Nat :=
  halfEven n (excess n) * 2 ^ excess n

/-- Integers are rounded without regard to their sign. -/
def nearestInt : Int → Int
  | .ofNat n => nearestNat n
  | .negSucc n => -nearestNat (n + 1)

theorem halfEven_bounds (n k : Nat) :
    n / 2 ^ k ≤ halfEven n k ∧ halfEven n k ≤ n / 2 ^ k + 1 := by
  rw [halfEven]
  split <;> omega

/-- Nothing is rounded where only zeros are dropped. -/
theorem halfEven_mul (n k : Nat) : halfEven (n * 2 ^ k) k = n := by
  have power := Nat.two_pow_pos k
  rw [halfEven, Nat.mul_mod_left, Nat.mul_div_cancel _ power, if_pos (Or.inl power)]

/-- More zeros that are dropped make no difference. -/
theorem halfEven_mul_add (n k j : Nat) : halfEven (n * 2 ^ j) (k + j) = halfEven n k := by
  have power := Nat.two_pow_pos j
  have whole : n * 2 ^ j / 2 ^ (k + j) = n / 2 ^ k := by
    rw [Nat.pow_add, Nat.mul_div_mul_right _ _ power]
  have rest : n * 2 ^ j % 2 ^ (k + j) = n % 2 ^ k * 2 ^ j := by
    rw [Nat.pow_add, Nat.mul_mod_mul_right]
  have less : 2 * (n % 2 ^ k * 2 ^ j) < 2 ^ k * 2 ^ j ↔ 2 * (n % 2 ^ k) < 2 ^ k := by
    rw [← Nat.mul_assoc, Nat.mul_lt_mul_right power]
  have equal : 2 * (n % 2 ^ k * 2 ^ j) = 2 ^ k * 2 ^ j ↔ 2 * (n % 2 ^ k) = 2 ^ k := by
    rw [← Nat.mul_assoc, Nat.mul_left_inj power.ne']
  rw [halfEven, halfEven, rest, whole, Nat.pow_add]
  simp only [less, equal]

theorem halfEven_mono {m n : Nat} (le : m ≤ n) (k : Nat) : halfEven m k ≤ halfEven n k := by
  have whole : m / 2 ^ k ≤ n / 2 ^ k := Nat.div_le_div_right le
  rcases whole.lt_or_eq with less | same
  · exact (halfEven_bounds m k).2.trans (less.trans_le (halfEven_bounds n k).1)
  · have rest : m % 2 ^ k ≤ n % 2 ^ k := by
      have left := Nat.div_add_mod m (2 ^ k)
      have right := Nat.div_add_mod n (2 ^ k)
      rw [same] at left
      omega
    rw [halfEven, halfEven, same]
    split <;> split <;> omega

theorem log2_mono {m n : Nat} (le : m ≤ n) : m.log2 ≤ n.log2 := by
  rcases Nat.eq_zero_or_pos m with rfl | positive
  · exact Nat.zero_le _
  · rw [Nat.le_log2 (positive.trans_le le).ne']
    exact (Nat.log2_self_le positive.ne').trans le

theorem log2_mul_two_pow {n : Nat} (nonzero : n ≠ 0) (k : Nat) :
    (n * 2 ^ k).log2 = n.log2 + k := by
  have power := Nat.two_pow_pos k
  rw [Nat.log2_eq_iff (Nat.mul_pos (Nat.pos_of_ne_zero nonzero) power).ne', Nat.pow_add,
    show n.log2 + k + 1 = n.log2 + 1 + k by omega, Nat.pow_add _ (n.log2 + 1)]
  exact ⟨Nat.mul_le_mul_right _ (Nat.log2_self_le nonzero),
    Nat.mul_lt_mul_of_pos_right Nat.lt_log2_self power⟩

theorem excess_eq_zero {n : Nat} (small : n < 2 ^ 53) : excess n = 0 := by
  rcases Nat.eq_zero_or_pos n with rfl | positive
  · rfl
  · have log : n.log2 < 53 := (Nat.log2_lt positive.ne').mpr small
    rw [excess]
    omega

theorem leadingBits_lt (n : Nat) : n / 2 ^ excess n < 2 ^ 53 := by
  rw [Nat.div_lt_iff_lt_mul (Nat.two_pow_pos _), ← Nat.pow_add]
  refine Nat.lt_log2_self.trans_le (Nat.pow_le_pow_right two_pos ?_)
  rw [excess]
  omega

theorem le_leadingBits {n : Nat} (large : 52 ≤ n.log2) : 2 ^ 52 ≤ n / 2 ^ excess n := by
  have nonzero : n ≠ 0 := by
    rintro rfl
    exact absurd large (by decide)
  rw [Nat.le_div_iff_mul_le (Nat.two_pow_pos _), ← Nat.pow_add, excess, Nat.add_sub_cancel' large]
  exact Nat.log2_self_le nonzero

theorem halfEven_excess_le (n : Nat) : halfEven n (excess n) ≤ 2 ^ 53 :=
  (halfEven_bounds n _).2.trans (leadingBits_lt n)

theorem le_halfEven_excess {n : Nat} (large : 52 ≤ n.log2) : 2 ^ 52 ≤ halfEven n (excess n) :=
  (le_leadingBits large).trans (halfEven_bounds n _).1

theorem nearestNat_of_lt {n : Nat} (small : n < 2 ^ 53) : nearestNat n = n := by
  have kept := halfEven_mul n 0
  rw [Nat.pow_zero, Nat.mul_one] at kept
  rw [nearestNat, excess_eq_zero small, Nat.pow_zero, Nat.mul_one, kept]

/-- Rounding keeps the order, also where one number has more bits to drop than the other. -/
theorem nearestNat_mono {m n : Nat} (le : m ≤ n) : nearestNat m ≤ nearestNat n := by
  have dropped : excess m ≤ excess n := Nat.sub_le_sub_right (log2_mono le) 52
  rcases dropped.lt_or_eq with less | same
  · have large : 52 ≤ n.log2 := by
      rw [excess, excess] at less
      omega
    calc nearestNat m
        ≤ 2 ^ 53 * 2 ^ excess m := Nat.mul_le_mul_right _ (halfEven_excess_le m)
      _ = 2 ^ 52 * 2 ^ (excess m + 1) := by omega
      _ ≤ 2 ^ 52 * 2 ^ excess n := Nat.mul_le_mul_left _ (Nat.pow_le_pow_right two_pos less)
      _ ≤ nearestNat n := Nat.mul_le_mul_right _ (le_halfEven_excess large)
  · rw [nearestNat, nearestNat, same]
    exact Nat.mul_le_mul_right _ (halfEven_mono le _)

theorem nearestInt_mono {a b : Int} (le : a ≤ b) : nearestInt a ≤ nearestInt b := by
  cases a with
  | ofNat m =>
      cases b with
      | ofNat n => exact Int.ofNat_le.mpr (nearestNat_mono (Int.ofNat_le.mp le))
      | negSucc n =>
          exact absurd (le.trans_lt (Int.negSucc_lt_zero n)) (Int.natCast_nonneg m).not_gt
  | negSucc m =>
      cases b with
      | ofNat n =>
          exact (Int.neg_nonpos_of_nonneg (Int.natCast_nonneg _)).trans (Int.natCast_nonneg _)
      | negSucc n =>
          have reversed : n + 1 ≤ m + 1 := by omega
          exact Int.neg_le_neg (Int.ofNat_le.mpr (nearestNat_mono reversed))

theorem nearestInt_of_le {z : Int} (small : z.natAbs ≤ 2 ^ 53) : nearestInt z = z := by
  have kept {n : Nat} (le : n ≤ 2 ^ 53) : nearestNat n = n := by
    rcases le.lt_or_eq with lt | rfl
    · exact nearestNat_of_lt lt
    · decide
  cases z with
  | ofNat n => exact congrArg Int.ofNat (kept small)
  | negSucc n => exact congrArg (fun k : Nat => -(k : Int)) (kept small)

end Decimal
end DocumentQuery
