import DocumentQuery.Proofs.Decimal.Comparison
import DocumentQuery.Proofs.Decimal.Nearest

namespace DocumentQuery
namespace Decimal

open Float.Model UnpackedFloat

/-!
# Integers as doubles

The double of an integer is the number with 53 bits that is nearest to it.  The library drops the
bits beyond one at a time.  It carries along the last dropped bit and whether an earlier one was
set, which is just what the remainder says about the half, and rounds by these two in the end.

Integers are read like decimals, so that two ways lead to their doubles.  One below the 53rd power
of two is taken over first and then multiplied by the power of ten, which is one; it is rounded
twice, but there is nothing to drop.  A larger one is multiplied exactly and rounded once.
-/

/-! ## Dropping bits one at a time -/

/-- What a mantissa and its two residual bits hold of a number after `k` bits have been dropped. -/
structure Holds (em : ExtendedMantissa) (n k : Nat) : Prop where
  mantissa : em.mantissa = n / 2 ^ k
  roundBit : em.roundBit = true ↔ 2 ^ k ≤ 2 * (n % 2 ^ k)
  stickyBit : em.stickyBit = true ↔ 2 * (n % 2 ^ k) ≠ 0 ∧ 2 * (n % 2 ^ k) ≠ 2 ^ k

theorem holds_all (n : Nat) : Holds ⟨n, false, false⟩ n 0 where
  mantissa := by rw [Nat.pow_zero, Nat.div_one]
  roundBit := by simp [Nat.mod_one]
  stickyBit := by simp [Nat.mod_one]

section

variable {em : ExtendedMantissa} {n k : Nat}

theorem Holds.shiftRightOne (holds : Holds em n k) : Holds em.shiftRightOne n (k + 1) := by
  have rest : n % 2 ^ (k + 1) = n % 2 ^ k + 2 ^ k * (n / 2 ^ k % 2) := Nat.mod_pow_succ
  have bound : n % 2 ^ k < 2 ^ k := Nat.mod_lt _ (Nat.two_pow_pos k)
  have double : 2 ^ (k + 1) = 2 * 2 ^ k := Nat.pow_succ'
  have lastBit := Nat.mod_two_eq_zero_or_one (n / 2 ^ k)
  have round_iff : em.shiftRightOne.roundBit = true ↔ n / 2 ^ k % 2 = 1 := by
    rw [ExtendedMantissa.shiftRightOne, holds.mantissa, bne_iff_ne]
    omega
  have sticky_iff : em.shiftRightOne.stickyBit = true ↔ n % 2 ^ k ≠ 0 := by
    rw [ExtendedMantissa.shiftRightOne, Bool.or_eq_true, holds.roundBit, holds.stickyBit]
    omega
  refine ⟨?_, ?_, ?_⟩
  · rw [ExtendedMantissa.shiftRightOne, holds.mantissa, Nat.div_div_eq_div_mul, Nat.pow_succ]
  · rw [round_iff, rest, double]
    rcases lastBit with bit | bit <;> rw [bit] <;> omega
  · rw [sticky_iff, rest, double]
    rcases lastBit with bit | bit <;> rw [bit] <;> omega

theorem holds_shiftRight (n k : Nat) :
    Holds ((⟨n, false, false⟩ : ExtendedMantissa) >>> k) n k := by
  induction k with
  | zero => exact holds_all n
  | succ k inductionHypothesis => exact inductionHypothesis.shiftRightOne

/-- The two residual bits are enough to round. -/
theorem Holds.roundedMantissa_eq (holds : Holds em n k) : em.roundedMantissa = halfEven n k := by
  rcases em with ⟨mantissa, roundBit, stickyBit⟩
  have mantissa_eq : mantissa = n / 2 ^ k := holds.mantissa
  have round : roundBit = true ↔ 2 ^ k ≤ 2 * (n % 2 ^ k) := holds.roundBit
  have sticky : stickyBit = true ↔ 2 * (n % 2 ^ k) ≠ 0 ∧ 2 * (n % 2 ^ k) ≠ 2 ^ k :=
    holds.stickyBit
  rw [halfEven, ← mantissa_eq]
  cases roundBit with
  | false =>
      have below : 2 * (n % 2 ^ k) < 2 ^ k :=
        Nat.lt_of_not_le fun half => Bool.false_ne_true (round.mpr half)
      rw [if_pos (Or.inl below)]
      cases stickyBit <;> rfl
  | true =>
      have half : 2 ^ k ≤ 2 * (n % 2 ^ k) := round.mp rfl
      cases stickyBit with
      | false =>
          have equal : 2 * (n % 2 ^ k) = 2 ^ k := by
            have power := Nat.two_pow_pos k
            by_contra other
            exact Bool.false_ne_true (sticky.mpr ⟨by omega, other⟩)
          change mantissa + mantissa % 2 = _
          split <;> omega
      | true =>
          have other := (sticky.mp rfl).2
          rw [if_neg (by omega)]
          rfl

end

/-! ## What the library rounds to -/

section

variable {m : Nat} {e : Int} (sign : Sign)

theorem shiftToTargetExponent_eq (large : 52 ≤ m.log2) (least : -1074 ≤ e + excess m) :
    shiftToTargetExponent Format.binary64 m e .exact =
      ((⟨m, false, false⟩ : ExtendedMantissa) >>> excess m, e + excess m) := by
  have target : Format.binary64.targetExponent (totalExponent m e) = e + excess m := by
    rw [excess] at least ⊢
    change max ((m.log2 : ℤ) + 1 + e - 53) (-1074) = _
    omega
  have shift : (e + excess m - e).toNat = excess m := by omega
  rw [shiftToTargetExponent, target, shiftToExponent, shift]
  rfl

/-- A number with 53 bits or more is rounded to the nearest one; if this is the 53rd power of two,
one more bit is dropped. -/
theorem roundWithAccuracy_eq {q : Nat} (large : 52 ≤ m.log2) (least : -1074 ≤ e + excess m)
    (rounded : halfEven m (excess m) = q) :
    ∃ pos, roundWithAccuracy Format.binary64 sign m e .exact =
      .finite sign (q / 2 ^ excess q) (e + excess m + excess q) pos := by
  have roundedMantissa :
      ((⟨m, false, false⟩ : ExtendedMantissa) >>> excess m).roundedMantissa = q :=
    (holds_shiftRight m (excess m)).roundedMantissa_eq.trans rounded
  have le_q : 2 ^ 52 ≤ q := rounded ▸ le_halfEven_excess large
  have q_large : 52 ≤ q.log2 := (Nat.le_log2 (by omega)).mpr le_q
  have mantissa := (holds_shiftRight q (excess q)).mantissa
  have nonzero : q / 2 ^ excess q ≠ 0 := by
    have leading := le_leadingBits q_large
    omega
  refine ⟨Nat.pos_of_ne_zero nonzero, ?_⟩
  simp only [roundWithAccuracy, shiftToTargetExponent_eq large least, roundedMantissa,
    shiftToTargetExponent_eq q_large (show -1074 ≤ e + excess m + excess q by omega), mantissa,
    dif_neg nonzero]

/-- What has 53 bits apart from zeros stays as it is. -/
theorem roundWithAccuracy_exact (pos : 0 < m) (leading : 2 ^ 52 ≤ m) (lt : m < 2 ^ 53) (k : Nat)
    (least : -1074 ≤ e) :
    roundWithAccuracy Format.binary64 sign (m * 2 ^ k) (e - k) .exact = .finite sign m e pos := by
  have log : m.log2 = 52 := (Nat.log2_eq_iff pos.ne').mpr ⟨leading, lt⟩
  have logs : (m * 2 ^ k).log2 = 52 + k := log ▸ log2_mul_two_pow pos.ne' k
  have dropped : excess (m * 2 ^ k) = k := by
    rw [excess, logs]
    omega
  have rounded : halfEven (m * 2 ^ k) (excess (m * 2 ^ k)) = m := by
    rw [dropped, halfEven_mul]
  rcases roundWithAccuracy_eq sign (e := e - k) (by omega) (by omega) rounded with
    ⟨_, rounds⟩
  simp only [rounds, dropped, excess_eq_zero lt, Nat.pow_zero, Nat.div_one, Int.sub_add_cancel,
    Int.cast_ofNat_Int, Int.add_zero]

end

/-! ## Packing -/

/-- A number in the form of a double with 53 significant bits. -/
inductive Normal (value : ℚ) : UnpackedFloat → Prop where
  | finite {sign : Sign} {m : Nat} {e : Int} {pos : 0 < m} (leading : 2 ^ 52 ≤ m)
      (lt : m < 2 ^ 53) (least : -1074 ≤ e) (greatest : e ≤ 971)
      (value_eq : (sign.apply m : ℤ) * 2 ^ e = value) : Normal value (.finite sign m e pos)

section

variable {value : ℚ} {u : UnpackedFloat}

theorem Normal.unpack_pack (normal : Normal value u) : (Float.Model.pack u).unpack = u := by
  rcases normal with @⟨sign, m, e, pos, leading, lt, least, greatest, _⟩
  have log : m.log2 + 1 = Format.binary64.mantissaBits :=
    congrArg (· + 1) ((Nat.log2_eq_iff pos.ne').mpr ⟨leading, lt⟩)
  rcases Int.eq_ofNat_of_zero_le (show 0 ≤ e + 1075 by omega) with ⟨biased, biased_eq⟩
  have packed : UnpackedFloat.pack Format.binary64 (.finite sign m e pos) =
      packComponents Format.binary64 sign (BitVec.ofNat 11 biased) (BitVec.ofNat 52 m) := by
    have biased_toNat : (e + (Format.binary64.exponentBias : ℤ) +
        (Format.binary64.mantissaBitsWithoutImplicit : ℤ)).toNat = biased := by
      change (e + 1023 + 52).toNat = biased
      omega
    have inRange : ¬ 2 ^ Format.binary64.exponentBits ≤ biased + 1 := by
      change ¬ 2 ^ 11 ≤ biased + 1
      omega
    simp only [UnpackedFloat.pack, biased_toNat, if_neg inRange, if_pos log]
  have exponent : (BitVec.ofNat 11 biased).toNat = biased := by
    rw [BitVec.toNat_ofNat, Nat.mod_eq_of_lt (by omega)]
  have notGreatest : BitVec.ofNat 11 biased ≠ -1#11 := by
    intro same
    have biased_eq : biased = 2047 := exponent.symm.trans (congrArg BitVec.toNat same)
    omega
  have notLeast : BitVec.ofNat 11 biased ≠ 0#11 := by
    intro same
    have biased_eq : biased = 0 := exponent.symm.trans (congrArg BitVec.toNat same)
    omega
  have significand : (1#1 ++ BitVec.ofNat 52 m).toNat = m := by
    rw [toNat_leadingOne, BitVec.toNat_ofNat]
    omega
  change UnpackedFloat.unpack Format.binary64
    (UnpackedFloat.pack Format.binary64 (.finite sign m e pos)) = _
  rw [packed]
  simp only [UnpackedFloat.unpack, unpackExponent_packComponents, unpackMantissa_packComponents,
    unpackSign_packComponents, Sign.ofBitVec_toBitVec, if_neg notGreatest, if_neg notLeast, exponent,
    significand]
  congr 1
  change (biased : ℤ) - (1023 + 52) = e
  omega

theorem Normal.neg (normal : Normal value u) : Normal (-value) u.neg := by
  cases normal with
  | @finite sign m e pos leading lt least greatest value_eq =>
      refine .finite leading lt least greatest ?_
      rw [← value_eq, ← neg_mul, ← Int.cast_neg]
      cases sign with
      | positive => rfl
      | negative =>
          change ((m : ℤ) : ℚ) * _ = (- -(m : ℤ) : ℤ) * _
          rw [Int.neg_neg]

/-- The value of a double is that of the form from which it is packed. -/
theorem Normal.exactValue_pack (normal : Normal value u) :
    (Float.ofModel (.pack u)).isFinite = true ∧ exactValue (.ofModel (.pack u)) = value := by
  have unpack_eq : (Float.ofModel (.pack u)).toModel.unpack = u := normal.unpack_pack
  rcases normal with @⟨sign, m, e, pos, _, _, _, _, value_eq⟩
  have finite : (Float.ofModel (.pack (.finite sign m e pos))).isFinite = true := by
    change UnpackedFloat.isFinite _ = true
    rw [unpack_eq]
    rfl
  rw [unpack_eq_unpacked finite] at unpack_eq
  exact ⟨finite, (Binary.signed_of_unpacked unpack_eq).trans value_eq⟩

end

/-- A number with 53 bits or more is rounded to the nearest one. -/
theorem normal_round (sign : Sign) {m : Nat} {e : Int} (large : 52 ≤ m.log2)
    (least : -1074 ≤ e + excess m) (greatest : e + excess m ≤ 970) :
    Normal ((sign.apply (halfEven m (excess m)) : ℤ) * 2 ^ (e + excess m))
      (roundWithAccuracy Format.binary64 sign m e .exact) := by
  generalize rounded : halfEven m (excess m) = q
  rcases roundWithAccuracy_eq sign large least rounded with ⟨_, rounds⟩
  have q_le : q ≤ 2 ^ 53 := rounded ▸ halfEven_excess_le m
  have le_q : 2 ^ 52 ≤ q := rounded ▸ le_halfEven_excess large
  have q_large : 52 ≤ q.log2 := (Nat.le_log2 (by omega)).mpr le_q
  have q_small : q.log2 < 54 := (Nat.log2_lt (by omega)).mpr (by omega)
  have dropped : excess q ≤ 1 := by
    rw [excess]
    omega
  have whole : q / 2 ^ excess q * 2 ^ excess q = q := by
    by_cases carried : q = 2 ^ 53
    · rw [carried]
      decide
    · rw [excess_eq_zero (by omega), Nat.pow_zero, Nat.div_one, Nat.mul_one]
  have product : ((q / 2 ^ excess q : Nat) : ℚ) * 2 ^ excess q = q := by exact_mod_cast whole
  rw [rounds]
  refine .finite (le_leadingBits q_large) (leadingBits_lt q) (by omega) (by omega) ?_
  rw [zpow_add₀ two_ne_zero, zpow_natCast, mul_comm (2 ^ _ : ℚ), ← mul_assoc]
  refine congrArg (· * (2 : ℚ) ^ (e + excess m)) ?_
  cases sign with
  | positive => exact product
  | negative =>
      change ((-(q / 2 ^ excess q : Nat) : ℤ) : ℚ) * 2 ^ excess q = ((-q : ℤ) : ℚ)
      rw [Int.cast_neg, neg_mul, Int.cast_neg]
      exact congrArg Neg.neg product

/-! ## The double of an integer -/

theorem unpack_one : (Float.ofBits 0x3FF0000000000000).toModel.unpack =
    .finite .positive (2 ^ 52) (-52) (Nat.two_pow_pos 52) :=
  rfl

theorem ofNat_of_lt {n : Nat} (small : n < 2 ^ 53) :
    Float.ofNat n = n.toUInt64.toFloat * Float.ofBits 0x3FF0000000000000 :=
  dif_pos ⟨small, by decide⟩

theorem ofNat_of_le {n : Nat} (large : 2 ^ 53 ≤ n) :
    Float.ofNat n = .ofModel (.ofScientific n 0) :=
  dif_neg fun fast => Nat.not_lt.mpr large fast.1

/-- A number below the 53rd power of two gets its 53 bits from zeros at the end. -/
theorem round_of_lt {n : Nat} (nonzero : n ≠ 0) (small : n < 2 ^ 53) :
    ∃ m k : Nat, ∃ pos, k ≤ 52 ∧ 2 ^ 52 ≤ m ∧ m < 2 ^ 53 ∧ m = n * 2 ^ k ∧
      UnpackedFloat.round Format.binary64 .positive n 0 = .finite .positive m (-k) pos := by
  have log_lt : n.log2 < 53 := (Nat.log2_lt nonzero).mpr small
  generalize missing : 52 - n.log2 = k
  have log : (n * 2 ^ k).log2 = 52 := by
    rw [log2_mul_two_pow nonzero]
    omega
  have positive : n * 2 ^ k ≠ 0 := Nat.mul_ne_zero nonzero (Nat.two_pow_pos k).ne'
  rcases (Nat.log2_eq_iff positive).mp log with ⟨leading, lt⟩
  have target : Format.binary64.targetExponent (totalExponent n 0) = -k := by
    change max ((n.log2 : ℤ) + 1 + 0 - 53) (-1074) = _
    omega
  have shift : (0 - -(k : ℤ)).toNat = k := by omega
  refine ⟨n * 2 ^ k, k, Nat.pos_of_ne_zero positive, by omega, leading, lt, rfl, ?_⟩
  have kept := roundWithAccuracy_exact .positive (e := -k) (Nat.pos_of_ne_zero positive) leading
    lt 0 (by omega)
  rw [Nat.pow_zero, Nat.mul_one, Int.natCast_zero, Int.sub_zero] at kept
  rw [UnpackedFloat.round, target, decreaseExponent, shift, Nat.shiftLeft_eq, Int.zero_sub]
  exact kept

theorem toModel_toFloat {n : Nat} (nonzero : n ≠ 0) (small : n < 2 ^ 53) :
    n.toUInt64.toFloat.toModel = .pack (UnpackedFloat.round Format.binary64 .positive n 0) := by
  have kept : n.toUInt64.toNat = n := Nat.mod_eq_of_lt (by omega)
  change Float.Model.pack (UnpackedFloat.normalize Format.binary64 n.toUInt64.toNat 0 .positive) = _
  rw [kept, UnpackedFloat.normalize, compare_gt_iff_gt.mpr (show (n : ℤ) > 0 by omega)]
  rfl

theorem normal_ofNat_of_lt {n : Nat} (nonzero : n ≠ 0) (small : n < 2 ^ 53) :
    ∃ u, Normal n u ∧ Float.ofNat n = .ofModel (.pack u) := by
  rcases round_of_lt nonzero small with ⟨m, k, pos, k_le, leading, lt, m_eq, rounds⟩
  have normal : Normal n (.finite .positive m (-k) pos) := by
    refine .finite leading lt (by omega) (by omega) ?_
    change (m : ℚ) * _ = _
    rw [m_eq, Nat.cast_mul, zpow_neg, zpow_natCast, Nat.cast_pow, mul_assoc]
    exact mul_right_eq_self₀.mpr (Or.inl (mul_inv_cancel₀ (pow_ne_zero _ two_ne_zero)))
  have product : UnpackedFloat.mul Format.binary64 (.finite .positive m (-k) pos)
      (.finite .positive (2 ^ 52) (-52) (Nat.two_pow_pos 52)) = .finite .positive m (-k) pos :=
    roundWithAccuracy_exact .positive pos leading lt 52 (by omega)
  refine ⟨_, normal, ?_⟩
  rw [ofNat_of_lt small]
  change Float.ofModel
    (.pack (UnpackedFloat.mul Format.binary64 n.toUInt64.toFloat.toModel.unpack _)) = _
  rw [toModel_toFloat nonzero small, rounds, normal.unpack_pack, unpack_one, product]

theorem normal_ofNat_of_le {n : Nat} (large : 2 ^ 53 ≤ n) (bound : n < 2 ^ 64) :
    ∃ u, Normal (nearestNat n) u ∧ Float.ofNat n = .ofModel (.pack u) := by
  have nonzero : n ≠ 0 := by omega
  have le_log : 53 ≤ n.log2 := (Nat.le_log2 nonzero).mpr large
  have log_lt : n.log2 < 64 := (Nat.log2_lt nonzero).mpr bound
  have log : (n * 2 ^ 53).log2 = n.log2 + 53 := log2_mul_two_pow nonzero 53
  have dropped : excess (n * 2 ^ 53) = excess n + 53 := by
    rw [excess, excess, log]
    omega
  have dropped_le : excess n ≤ 11 := by
    rw [excess]
    omega
  have normal := normal_round .positive (m := n * 2 ^ 53) (e := -53) (by omega)
    (by omega) (by omega)
  have value_eq : ((Sign.positive.apply (halfEven n (excess n)) : ℤ) : ℚ) * 2 ^ excess n =
      nearestNat n := by
    rw [nearestNat, Nat.cast_mul, Nat.cast_pow]
    rfl
  rw [dropped, halfEven_mul_add, show (-53 + (excess n + 53 : Nat) : ℤ) = excess n by omega,
    zpow_natCast, value_eq] at normal
  have scientific : UnpackedFloat.ofScientific Format.binary64 n 0 =
      roundWithAccuracy Format.binary64 .positive (n * 2 ^ 53) (-53) .exact := by
    have notTiny : ¬ (0 : ℤ) < -((2 ^ Format.binary64.exponentBits : ℤ) + n.log2) := by
      change ¬ (0 : ℤ) < -((2 ^ 11 : ℤ) + n.log2)
      omega
    rw [UnpackedFloat.ofScientific, dif_neg nonzero, if_neg (by decide), if_neg notTiny,
      if_pos le_rfl]
    change roundWithAccuracy Format.binary64 .positive (n <<< 53 * 1) (-53 + 0) .exact = _
    rw [Nat.shiftLeft_eq, Nat.mul_one, Int.add_zero]
  rw [ofNat_of_le large]
  exact ⟨_, normal, congrArg (fun u => Float.ofModel (.pack u)) scientific⟩

theorem normal_ofNat {n : Nat} (nonzero : n ≠ 0) (bound : n < 2 ^ 64) :
    ∃ u, Normal (nearestNat n) u ∧ Float.ofNat n = .ofModel (.pack u) := by
  rcases Nat.lt_or_ge n (2 ^ 53) with small | large
  · rw [nearestNat_of_lt small]
    exact normal_ofNat_of_lt nonzero small
  · exact normal_ofNat_of_le large bound

/-- An integer becomes a double with the nearest number of 53 bits. -/
theorem exactValue_ofInt {z : Int} (bound : z.natAbs < 2 ^ 64) :
    (Float.ofInt z).isFinite = true ∧ exactValue (Float.ofInt z) = nearestInt z := by
  cases z with
  | ofNat n =>
      change (Float.ofNat n).isFinite = true ∧ exactValue (Float.ofNat n) = (nearestNat n : ℤ)
      rcases Nat.eq_zero_or_pos n with rfl | positive
      · exact ⟨by decide, Binary.signed_eq_zero (by decide) _⟩
      · rcases normal_ofNat positive.ne' bound with ⟨u, normal, made⟩
        rw [made]
        exact normal.exactValue_pack
  | negSucc n =>
      rcases normal_ofNat n.succ_ne_zero bound with ⟨u, normal, made⟩
      have negated : Float.ofInt (Int.negSucc n) = .ofModel (.pack u.neg) := by
        change Float.ofModel (.pack (Float.ofNat (n + 1)).toModel.unpack.neg) = _
        rw [made, normal.unpack_pack]
      rw [negated, nearestInt, Int.cast_neg]
      exact normal.neg.exactValue_pack

theorem exactValue_ofInt64 (n : Int64) :
    (ofInt64 n).isFinite = true ∧ exactValue (ofInt64 n) = nearestInt n.toInt := by
  have least := n.le_toInt
  have greatest := n.toInt_lt
  exact exactValue_ofInt (by omega)

end Decimal
end DocumentQuery
