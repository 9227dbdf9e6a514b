import DocumentQuery.Decimal.Reading
import DocumentQuery.Proofs.Json.Numerals
import DocumentQuery.Proofs.Text.Order
import Mathlib.Algebra.Group.Nat.Defs
import Mathlib.Data.List.Induction

namespace DocumentQuery
namespace Decimal

open Json

/-!
# Numbers in fields of a fixed width

A number that is filled up with zeros on the left is read back from its text, and it fills its field
exactly if it has no more digits than the field has places.  Among the numbers that fit into a field
the order of the texts is the order of the numbers, and a field can be cut in two: the text of the
quotient by a power of ten and the text of the remainder.
-/

/-- The digits in the field of a number. -/
structure Field (width n : Nat) (digits : List Nat) : Prop where
  text_eq : padded width n = digits.map Nat.digitChar
  small : ∀ d ∈ digits, d < 10
  value_eq : valueOfDigits digits = n
  nonempty : digits ≠ []
  length_eq : digits.length = max width (natural n).length

theorem valueOfDigits_append (left right : List Nat) :
    valueOfDigits (left ++ right) =
      valueOfDigits left * 10 ^ right.length + valueOfDigits right := by
  induction right using List.reverseRecOn with
  | nil => rw [List.append_nil, List.length_nil, Nat.pow_zero, Nat.mul_one]; rfl
  | append_singleton earlier last inductionHypothesis =>
      have shifted := Nat.mul_left_comm (valueOfDigits left) 10 (10 ^ earlier.length)
      rw [← List.append_assoc, valueOfDigits_append_singleton, valueOfDigits_append_singleton,
        inductionHypothesis, List.length_append, List.length_singleton, Nat.pow_succ']
      omega

theorem valueOfDigits_cons (d : Nat) (digits : List Nat) :
    valueOfDigits (d :: digits) = d * 10 ^ digits.length + valueOfDigits digits := by
  have one : valueOfDigits [d] = d := Nat.zero_add d
  rw [← List.singleton_append, valueOfDigits_append, one]

theorem valueOfDigits_lt {digits : List Nat} (small : ∀ d ∈ digits, d < 10) :
    valueOfDigits digits < 10 ^ digits.length := by
  induction digits using List.reverseRecOn with
  | nil => exact Nat.one_pos
  | append_singleton earlier last inductionHypothesis =>
      have lastSmall : last < 10 := small last (List.mem_append_right earlier List.mem_cons_self)
      have before := inductionHypothesis fun d member => small d (List.mem_append_left [last] member)
      rw [valueOfDigits_append_singleton, List.length_append, List.length_singleton, Nat.pow_succ']
      omega

theorem valueOfDigits_replicate_zero (k : Nat) (digits : List Nat) :
    valueOfDigits (List.replicate k 0 ++ digits) = valueOfDigits digits := by
  induction k with
  | zero => rfl
  | succ k inductionHypothesis =>
      rw [List.replicate_succ, List.cons_append, valueOfDigits_cons, inductionHypothesis,
        Nat.zero_mul, Nat.zero_add]

theorem exists_field (width n : Nat) : ∃ digits : List Nat, Field width n digits := by
  rcases exists_digits n with ⟨digits, written⟩
  have length_eq : (natural n).length = digits.length := by
    rw [written.text_eq, List.length_map]
  refine ⟨List.replicate (width - digits.length) 0 ++ digits, ?_, ?_, ?_, ?_, ?_⟩
  · rw [padded, length_eq, List.map_append, List.map_replicate, written.text_eq]
    rfl
  · intro d member
    rcases List.mem_append.mp member with filling | digit
    · rw [List.eq_of_mem_replicate filling]
      decide
    · exact written.small d digit
  · rw [valueOfDigits_replicate_zero, written.value_eq]
  · exact List.append_ne_nil_of_right_ne_nil _ written.nonempty
  · rw [List.length_append, List.length_replicate, length_eq]
    omega

theorem length_padded (width n : Nat) :
    (padded width n).length = max width (natural n).length := by
  rcases exists_field width n with ⟨digits, field⟩
  rw [field.text_eq, List.length_map, field.length_eq]

/-- A number that fits fills its field. -/
theorem length_padded_of_lt {width n : Nat} (places : 0 < width) (fits : n < 10 ^ width) :
    (padded width n).length = width := by
  have short : (natural n).length ≤ width := (Nat.length_toDigits_le_iff (by decide) places).mpr fits
  rw [length_padded]
  omega

theorem padded_ne_nil (width n : Nat) : padded width n ≠ [] :=
  List.append_ne_nil_of_right_ne_nil _ (natural_ne_nil n)

theorem isDigit_of_mem_padded {width n : Nat} {c : Char} (member : c ∈ padded width n) :
    Text.isDigit c = true := by
  rcases exists_field width n with ⟨digits, field⟩
  rw [field.text_eq] at member
  rcases List.mem_map.mp member with ⟨d, digit, rfl⟩
  exact isDigit_digitChar (field.small d digit)

/-! ## Reading a field -/

theorem digitsValue_digitChar {digits : List Nat} (small : ∀ d ∈ digits, d < 10) (start : Nat) :
    digitsValue start (digits.map Nat.digitChar) =
      some (digits.foldl (fun n d => 10 * n + d) start) := by
  induction digits generalizing start with
  | nil => rfl
  | cons d rest inductionHypothesis =>
      have later := inductionHypothesis fun e member => small e (List.mem_cons_of_mem d member)
      rw [List.map_cons, digitsValue, digit?_digitChar (small d List.mem_cons_self)]
      exact later (10 * start + d)

/-- The number in a field is read back. -/
theorem natural?_padded (width n : Nat) : natural? (padded width n) = some n := by
  rcases exists_field width n with ⟨digits, field⟩
  have value := digitsValue_digitChar field.small 0
  rw [← field.text_eq] at value
  rcases List.exists_cons_of_ne_nil (padded_ne_nil width n) with ⟨c, rest, text⟩
  rw [text] at value ⊢
  rw [natural?, value]
  exact congrArg some field.value_eq

/-! ## Order -/

theorem compare_digitChar {d e : Nat} (small : d < 10) (small' : e < 10) :
    compare (Nat.digitChar d) (Nat.digitChar e) = compare d e := by
  have each : ∀ d e : Fin 10,
      compare (Nat.digitChar d) (Nat.digitChar e) = compare d.val e.val := by decide
  exact each ⟨d, small⟩ ⟨e, small'⟩

/-- Units are compared before what is left beside them. -/
theorem compare_units {unit i j : Nat} (a b : Nat) (small : i < unit) (small' : j < unit) :
    compare (a * unit + i) (b * unit + j) = (compare a b).then (compare i j) := by
  let start (a : Nat) : Int := (a * unit : Nat)
  have apart : ∀ {a b : Nat}, a < b → start a + unit ≤ start b := by
    intro a b before
    have next := Nat.mul_le_mul_right unit (Nat.succ_le_of_lt before)
    rw [Nat.succ_mul] at next
    exact Int.ofNat_le.mpr next
  have order : compare (start a + i) (start b + j) = _ :=
    Text.compare_places apart (Int.ofNat_lt.mpr small) (Int.ofNat_lt.mpr small')
  exact (Text.compare_natCast _ _).symm.trans order

/-- Digits in the same number of places have the order of the numbers. -/
theorem compare_digits {left right : List Nat} (same : left.length = right.length)
    (small : ∀ d ∈ left, d < 10) (small' : ∀ d ∈ right, d < 10) :
    compare (left.map Nat.digitChar) (right.map Nat.digitChar) =
      compare (valueOfDigits left) (valueOfDigits right) := by
  induction left generalizing right with
  | nil =>
      rw [List.eq_nil_of_length_eq_zero same.symm]
      rfl
  | cons d rest inductionHypothesis =>
      rcases right with _ | ⟨e, others⟩
      · exact nomatch same
      have shorter : rest.length = others.length := Nat.succ.inj same
      have smaller : ∀ f ∈ rest, f < 10 := fun f member => small f (List.mem_cons_of_mem d member)
      have smaller' : ∀ f ∈ others, f < 10 := fun f member => small' f (List.mem_cons_of_mem e member)
      have below : valueOfDigits others < 10 ^ rest.length := shorter ▸ valueOfDigits_lt smaller'
      rw [List.map_cons, List.map_cons, List.compare_cons_cons,
        compare_digitChar (small d List.mem_cons_self) (small' e List.mem_cons_self),
        inductionHypothesis shorter smaller smaller', valueOfDigits_cons, valueOfDigits_cons,
        ← shorter, compare_units d e (valueOfDigits_lt smaller) below]

/-- Numbers that fit into a field have the order of their texts. -/
theorem compare_padded {width m n : Nat} (places : 0 < width) (fits : m < 10 ^ width)
    (fits' : n < 10 ^ width) : compare (padded width m) (padded width n) = compare m n := by
  rcases exists_field width m with ⟨left, field⟩
  rcases exists_field width n with ⟨right, field'⟩
  have length_eq := length_padded_of_lt places fits
  have length_eq' := length_padded_of_lt places fits'
  rw [field.text_eq, List.length_map] at length_eq
  rw [field'.text_eq, List.length_map] at length_eq'
  rw [field.text_eq, field'.text_eq,
    compare_digits (length_eq.trans length_eq'.symm) field.small field'.small, field.value_eq,
    field'.value_eq]

/-- Fields of one width are compared before what follows them. -/
theorem compare_padded_append {width m n : Nat} (places : 0 < width) (fits : m < 10 ^ width)
    (fits' : n < 10 ^ width) (s t : List Char) :
    compare (padded width m ++ s) (padded width n ++ t) = (compare m n).then (compare s t) := by
  have same := (length_padded_of_lt places fits).trans (length_padded_of_lt places fits').symm
  rw [Text.compare_append same, compare_padded places fits fits']

/-- Any digits are the text of their number in as many places. -/
theorem map_digitChar {digits : List Nat} (nonempty : digits ≠ []) (small : ∀ d ∈ digits, d < 10) :
    digits.map Nat.digitChar = padded digits.length (valueOfDigits digits) := by
  rcases exists_field digits.length (valueOfDigits digits) with ⟨others, field⟩
  have length_eq := length_padded_of_lt (List.length_pos_iff.mpr nonempty) (valueOfDigits_lt small)
  rw [field.text_eq, List.length_map] at length_eq
  rw [field.text_eq]
  apply Std.LawfulEqOrd.eq_of_compare
  rw [compare_digits length_eq.symm small field.small, field.value_eq, compare_eq_iff_eq]

/-- A field is cut in two. -/
theorem padded_add {left right n : Nat} (places : 0 < left) (places' : 0 < right)
    (fits : n < 10 ^ (left + right)) :
    padded (left + right) n = padded left (n / 10 ^ right) ++ padded right (n % 10 ^ right) := by
  rcases exists_field (left + right) n with ⟨digits, field⟩
  have length_eq := length_padded_of_lt (Nat.add_pos_left places right) fits
  rw [field.text_eq, List.length_map] at length_eq
  have high : (digits.take left).length = left := by rw [List.length_take]; omega
  have low : (digits.drop left).length = right := by rw [List.length_drop]; omega
  have smallHigh : ∀ d ∈ digits.take left, d < 10 := fun d m => field.small d (List.mem_of_mem_take m)
  have smallLow : ∀ d ∈ digits.drop left, d < 10 := fun d m => field.small d (List.mem_of_mem_drop m)
  have value := field.value_eq
  have below := valueOfDigits_lt smallLow
  rw [← List.take_append_drop left digits, valueOfDigits_append, low] at value
  rw [low] at below
  have quotient : n / 10 ^ right = valueOfDigits (digits.take left) := by
    rw [← value, Nat.mul_comm, Nat.mul_add_div (Nat.pow_pos (by decide)), Nat.div_eq_of_lt below,
      Nat.add_zero]
  have remainder : n % 10 ^ right = valueOfDigits (digits.drop left) := by
    rw [← value, Nat.mul_comm, Nat.mul_add_mod, Nat.mod_eq_of_lt below]
  have leftText := map_digitChar (List.length_pos_iff.mp (by omega)) smallHigh
  have rightText := map_digitChar (List.length_pos_iff.mp (by omega)) smallLow
  rw [high] at leftText
  rw [low] at rightText
  rw [quotient, remainder, ← leftText, ← rightText, ← List.map_append, List.take_append_drop,
    field.text_eq]

end Decimal
end DocumentQuery
