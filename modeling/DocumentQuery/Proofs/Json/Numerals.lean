import DocumentQuery.Proofs.Decimal.Digits

namespace DocumentQuery
namespace Json

open Decimal

/-!
# Numerals of integers

A written integer is a numeral of the grammar, without a point and without an exponent, and
its value is the integer again.  A 64-bit integer never leaves the range in which digits are
gathered, so nothing is rounded.
-/

theorem isDigit_digitChar {d : Nat} (small : d < 10) : Text.isDigit (Nat.digitChar d) = true := by
  have each : ∀ d : Fin 10, Text.isDigit (Nat.digitChar d) = true := by decide
  exact each ⟨d, small⟩

theorem digit?_digitChar {d : Nat} (small : d < 10) : digit? (Nat.digitChar d) = some d := by
  have each : ∀ d : Fin 10, digit? (Nat.digitChar d) = some d.val := by decide
  exact each ⟨d, small⟩

theorem mapM_digit? {digits : List Nat} (small : ∀ d ∈ digits, d < 10) :
    (digits.map Nat.digitChar).mapM digit? = some digits := by
  induction digits with
  | nil => rfl
  | cons d rest inductionHypothesis =>
      have first := digit?_digitChar (small d List.mem_cons_self)
      have later := inductionHypothesis fun e member => small e (List.mem_cons_of_mem d member)
      rw [List.map_cons, List.mapM_cons, first, later]
      rfl

theorem digits?_natural {n : Nat} {digits : List Nat} (written : Digits n digits) :
    digits? (natural n) = some digits := by
  rcases List.exists_cons_of_ne_nil written.nonempty with ⟨d, rest, rfl⟩
  rw [written.text_eq]
  exact mapM_digit? written.small

theorem takeWhile_natural {n : Nat} {digits : List Nat} (written : Digits n digits) :
    (natural n).takeWhile Text.isDigit = natural n ∧
      (natural n).dropWhile Text.isDigit = [] := by
  have every : ∀ c ∈ natural n, Text.isDigit c = true := by
    intro c member
    rw [written.text_eq] at member
    rcases List.mem_map.mp member with ⟨d, digit, rfl⟩
    exact isDigit_digitChar (written.small d digit)
  have whole : (natural n ++ []).takeWhile Text.isDigit = natural n ++ [].takeWhile Text.isDigit :=
    List.takeWhile_append_of_pos every
  have nothing : (natural n ++ []).dropWhile Text.isDigit = [].dropWhile Text.isDigit :=
    List.dropWhile_append_of_pos every
  simp only [List.append_nil, List.takeWhile_nil, List.dropWhile_nil] at whole nothing
  exact ⟨whole, nothing⟩

/-- The digits of a number pass the test for a leading zero. -/
theorem leading_digits {n : Nat} {digits : List Nat} (written : Digits n digits) :
    ¬ (digits.head? = some 0 && digits.length ≠ 1) = true := by
  rw [Bool.and_eq_true, decide_eq_true_eq, decide_eq_true_eq]
  rintro ⟨zero, several⟩
  rw [written.noLeadingZero zero] at several
  exact several rfl

theorem read?_natural {n : Nat} {digits : List Nat} (written : Digits n digits) :
    Numeral.read? (natural n) = some ⟨false, digits, none, none⟩ := by
  rcases takeWhile_natural written with ⟨whole, nothing⟩
  rcases List.exists_cons_of_ne_nil (natural_ne_nil n) with ⟨c, rest, text⟩
  have noSign : c ≠ '-' := by
    rintro rfl
    exact natural_ne_sign n rest text
  rw [text] at whole nothing
  have read := digits?_natural written
  rw [text] at read ⊢
  unfold Numeral.read?
  split
  rename_i negative unsigned sign
  have sign_eq : false = negative ∧ c :: rest = unsigned := by
    split at sign
    · rename_i found
      exact absurd (List.cons.inj found).1 noSign
    · exact Prod.mk.inj sign
  rcases sign_eq with ⟨rfl, rfl⟩
  simp only [whole, read, nothing, Option.bind_eq_bind, Option.bind_some,
    if_neg (leading_digits written)]
  rfl

theorem read?_negative {n : Nat} {digits : List Nat} (written : Digits n digits) :
    Numeral.read? ('-' :: natural n) = some ⟨true, digits, none, none⟩ := by
  rcases takeWhile_natural written with ⟨whole, nothing⟩
  have read := digits?_natural written
  unfold Numeral.read?
  simp only [whole, read, nothing, Option.bind_eq_bind, Option.bind_some,
    if_neg (leading_digits written)]
  rfl

/-- A written integer is a numeral with the digits of its magnitude. -/
theorem read?_integer {n : Int} {digits : List Nat} (written : Digits n.natAbs digits) :
    Numeral.read? (integer n) = some ⟨decide (n < 0), digits, none, none⟩ := by
  rw [integer]
  by_cases negative : n < 0
  · rw [if_pos negative, read?_negative written, decide_eq_true negative]
  · rw [if_neg negative, read?_natural written, decide_eq_false negative]

/-- The digits of a number below a 64-bit bound are all gathered. -/
theorem gather_eq (significand : Nat) (digits : List Nat)
    (fits : digits.foldl (fun n d => 10 * n + d) significand < 0x10000000000000000) :
    gather significand digits = (digits.foldl (fun n d => 10 * n + d) significand, []) := by
  induction digits generalizing significand with
  | nil => rfl
  | cons d rest inductionHypothesis =>
      have grows : ∀ (digits : List Nat) (n : Nat),
          n ≤ digits.foldl (fun n d => 10 * n + d) n := by
        intro digits
        induction digits with
        | nil => exact fun n => Nat.le_refl n
        | cons e others more =>
            intro n
            have later := more (10 * n + e)
            rw [List.foldl_cons]
            omega
      have first : 10 * significand + d < 0x10000000000000000 := Nat.lt_of_le_of_lt (grows rest _) fits
      rw [gather, if_pos first, inductionHypothesis _ fits, List.foldl_cons]

/-- The numeral of a 64-bit integer has that integer for its value. -/
theorem value?_integer (n : Int64) {digits : List Nat} (written : Digits n.toInt.natAbs digits) :
    Numeral.value? ⟨decide (n.toInt < 0), digits, none, none⟩ = some (.integer n) := by
  have lower := n.le_toInt
  have upper := n.toInt_lt
  have fits : digits.foldl (fun n d => 10 * n + d) 0 < 0x10000000000000000 := by
    have value := written.value_eq
    rw [valueOfDigits] at value
    rw [value]
    omega
  have gathered : (gather 0 digits).2.isEmpty = true := by rw [gather_eq 0 digits fits]; rfl
  rw [Numeral.value?, written.value_eq]
  simp only [Option.isNone_none, gathered, Bool.and_self, if_true]
  by_cases negative : n.toInt < 0
  · have inRange : ¬ (n.toInt.natAbs = 0 || 0x8000000000000000 < n.toInt.natAbs) = true := by
      simp only [Bool.or_eq_true, decide_eq_true_eq]
      omega
    have same : -(n.toInt.natAbs : Int) = n.toInt := by omega
    rw [if_pos (decide_eq_true negative), if_neg inRange, same, Int64.ofInt_toInt]
  · have inRange : n.toInt.natAbs < 0x8000000000000000 := by omega
    have same : (n.toInt.natAbs : Int) = n.toInt := by omega
    rw [if_neg (by simpa using negative), if_pos inRange]
    rw [← Int64.ofInt_eq_ofNat, same, Int64.ofInt_toInt]

end Json
end DocumentQuery
