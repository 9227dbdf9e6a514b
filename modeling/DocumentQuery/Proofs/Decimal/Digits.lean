import DocumentQuery.Decimal.Layout
import DocumentQuery.Json.Numeral
import DocumentQuery.Value.Scalar
import Mathlib.Data.List.Basic

namespace DocumentQuery
namespace Decimal

/-!
# Written integers

The digits of a natural number, as numbers: they are what a reader of the text works with.
`Digits` collects what is known of them, and what follows for the texts of integers is that
different integers have different texts and that these consist of digits, with a sign before
those of a negative one.
-/

theorem exists_digitChar {c : Char} (digit : c.isDigit = true) :
    ∃ d : Nat, d < 10 ∧ c = Nat.digitChar d := by
  have range := Char.isDigit_iff_toNat.mp digit
  simp only [Char.reduceToNat] at range
  refine ⟨c.toNat - 48, by omega, ?_⟩
  apply Char.toNat_inj.mp
  rw [Nat.toNat_digitChar_of_lt_ten (by omega)]
  omega

/-- The digits of a natural number in its written form. -/
structure Digits (n : Nat) (digits : List Nat) : Prop where
  text_eq : natural n = digits.map Nat.digitChar
  small : ∀ d ∈ digits, d < 10
  value_eq : Json.valueOfDigits digits = n
  nonempty : digits ≠ []
  noLeadingZero : digits.head? = some 0 → digits = [0]

theorem valueOfDigits_append_singleton (digits : List Nat) (d : Nat) :
    Json.valueOfDigits (digits ++ [d]) = 10 * Json.valueOfDigits digits + d := by
  rw [Json.valueOfDigits, List.foldl_append]
  rfl

/-- Every natural number has digits.  The last one is taken off until one is left. -/
theorem exists_digits (n : Nat) : ∃ digits : List Nat, Digits n digits := by
  induction n using Nat.strongRecOn with
  | ind n inductionHypothesis =>
      by_cases single : n < 10
      · refine ⟨[n], ?_, ?_, ?_, List.cons_ne_nil n [], ?_⟩
        · exact Nat.toDigits_of_lt_base single
        · intro d member
          rwa [List.mem_singleton.mp member]
        · exact Nat.zero_add n
        · intro zero
          rw [Option.some.inj zero]
      · have smaller : n / 10 < n := Nat.div_lt_self (by omega) (by decide)
        rcases inductionHypothesis (n / 10) smaller with ⟨digits, found⟩
        refine ⟨digits ++ [n % 10], ?_, ?_, ?_, ?_, ?_⟩
        · have text := Nat.toDigits_of_base_le (b := 10) (by decide) (by omega : 10 ≤ n)
          rw [natural, text, List.map_append, ← found.text_eq]
          rfl
        · intro d member
          rcases List.mem_append.mp member with earlier | last
          · exact found.small d earlier
          · rw [List.mem_singleton.mp last]
            exact Nat.mod_lt n (by decide)
        · rw [valueOfDigits_append_singleton, found.value_eq]
          exact Nat.div_add_mod n 10
        · exact List.append_ne_nil_of_right_ne_nil digits (List.cons_ne_nil _ [])
        · intro zero
          rw [List.head?_append_of_ne_nil digits found.nonempty] at zero
          have value := found.value_eq
          rw [found.noLeadingZero zero] at value
          have : n / 10 = 0 := value.symm
          omega

theorem natural_ne_nil (n : Nat) : natural n ≠ [] :=
  Nat.toDigits_ne_nil

theorem isDigit_of_mem_natural {n : Nat} {c : Char} (member : c ∈ natural n) : c.isDigit = true :=
  Nat.isDigit_of_mem_toDigits (by decide) (by decide) member

theorem natural_inj {m n : Nat} : natural m = natural n ↔ m = n := by
  constructor
  · intro same
    have value := congrArg (Nat.ofDigitChars 10 · 0) same
    simpa only [natural, Nat.ofDigitChars_ten_toDigits] using value
  · rintro rfl
    rfl

theorem integer_ne_nil (n : Int) : integer n ≠ [] := by
  rw [integer]
  by_cases negative : n < 0
  · rw [if_pos negative]
    exact List.cons_ne_nil _ _
  · rw [if_neg negative]
    exact natural_ne_nil n.natAbs

/-- A written integer consists of digits and, at most, a sign. -/
theorem isDigit_of_mem_integer {n : Int} {c : Char} (member : c ∈ integer n) :
    c = '-' ∨ c.isDigit = true := by
  rw [integer] at member
  by_cases negative : n < 0
  · rw [if_pos negative] at member
    rcases List.mem_cons.mp member with sign | digit
    · exact Or.inl sign
    · exact Or.inr (isDigit_of_mem_natural digit)
  · rw [if_neg negative] at member
    exact Or.inr (isDigit_of_mem_natural member)

theorem natural_ne_sign (m : Nat) (rest : List Char) : natural m ≠ '-' :: rest := by
  intro same
  have member : '-' ∈ natural m := by
    rw [same]
    exact List.mem_cons_self
  exact absurd (isDigit_of_mem_natural member) (by decide)

/-- Different integers are written differently. -/
theorem integer_inj {m n : Int} : integer m = integer n ↔ m = n := by
  constructor
  · intro same
    rw [integer, integer] at same
    by_cases negative : m < 0 <;> by_cases negative' : n < 0
    · rw [if_pos negative, if_pos negative'] at same
      have sameSize := natural_inj.mp (List.cons.inj same).2
      omega
    · rw [if_pos negative, if_neg negative'] at same
      exact absurd same.symm (natural_ne_sign _ _)
    · rw [if_neg negative, if_pos negative'] at same
      exact absurd same (natural_ne_sign _ _)
    · rw [if_neg negative, if_neg negative'] at same
      have sameSize := natural_inj.mp same
      omega
  · rintro rfl
    rfl

/-! ## Texts of doubles -/

/-- A decimal without an exponent consists of digits and, at most, a point. -/
theorem isDigit_of_mem_writePositional {layout : Layout} {digits : List Char} {exponent : Int}
    (areDigits : ∀ c ∈ digits, c.isDigit = true) {c : Char}
    (member : c ∈ layout.writePositional digits exponent) : c = '.' ∨ c.isDigit = true := by
  have zeros {n : Nat} (member : c ∈ List.replicate n '0') : c.isDigit = true := by
    rw [List.eq_of_mem_replicate member]
    rfl
  have part {n : Nat} (member : c ∈ digits.take n ∨ c ∈ digits.drop n) : c.isDigit = true :=
    areDigits c (member.elim List.mem_of_mem_take List.mem_of_mem_drop)
  have fraction (member : c ∈ ['.', '0'] ∨ c ∈ ['0', '.']) : c = '.' ∨ c.isDigit = true := by
    revert member
    simp only [List.mem_cons, List.not_mem_nil, or_false]
    rintro ((rfl | rfl) | (rfl | rfl)) <;> decide
  rw [Layout.writePositional] at member
  split at member
  · rcases List.mem_append.mp member with whole | point
    · rcases List.mem_append.mp whole with digit | zero
      · exact .inr (areDigits c digit)
      · exact .inr (zeros zero)
    · split at point
      · exact fraction (.inl point)
      · exact nomatch point
  · dsimp only at member
    split at member
    · rcases List.mem_append.mp member with whole | later
      · exact .inr (part (.inl whole))
      · rcases List.mem_cons.mp later with point | digit
        · exact .inl point
        · exact .inr (part (.inr digit))
    · rcases List.mem_append.mp member with front | digit
      · rcases List.mem_append.mp front with point | zero
        · exact fraction (.inr point)
        · exact .inr (zeros zero)
      · exact .inr (areDigits c digit)

/-- No bracket is in the text of a double. -/
theorem bracket_notMem_realText (x : Float) : '[' ∉ (realText x).toList := by
  have positional {digits : List Char} {exponent : Int}
      (areDigits : ∀ c ∈ digits, c.isDigit = true) :
      '[' ∉ plainText.writePositional digits exponent := fun member =>
    absurd (isDigit_of_mem_writePositional areDigits member) (by decide)
  have decimal (d : Scaled) : '[' ∉ plainText.writeDecimal d := by
    have always (leading : Int) : plainText.positional leading = true := rfl
    rw [Layout.writeDecimal, if_pos (always _)]
    exact positional fun c member => isDigit_of_mem_natural member
  have zero : ∀ c ∈ ['0'], c.isDigit = true := List.forall_mem_singleton.mpr rfl
  have magnitude : '[' ∉ (if x.isInf then plainText.infinite
      else if (magnitude x).significand = 0 then plainText.writePositional ['0'] 0
      else plainText.writeDecimal ((magnitude x).shortest plainText.tie)) := by
    split
    · decide
    · split
      · exact positional zero
      · exact decimal _
  rw [realText, String.toList_ofList, Layout.write]
  split
  · decide
  · dsimp only
    split
    · exact List.not_mem_cons_of_ne_of_not_mem (by decide) magnitude
    · exact magnitude

end Decimal
end DocumentQuery
