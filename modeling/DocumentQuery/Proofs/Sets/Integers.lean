import DocumentQuery.Proofs.Json.ReadBack
import DocumentQuery.Proofs.Sets.Cells
import DocumentQuery.Proofs.Sets.PlainWords
import DocumentQuery.Value.Cast

namespace DocumentQuery

open Brackets Sql

/-!
# Columns of integer sets

The word of an integer is its numeral, which has no brackets and no commas.  So an integer
is found, added and removed in every list exactly as it should be, whatever the numerals of
the others begin or end with.  A stored set also reads back as it was written, and what is
then decided without the store agrees with what the store decides.
-/

namespace SetColumn

/-- A column of integer sets. -/
def integers : SetColumn Int64 where
  type := .integerSet
  element? := ColumnType.integerElement?
  value := .integer
  json := Json.ofInt64
  isSet := rfl
  element?_eq _ := rfl
  element?_value _ := rfl
  setOf_eq items := by
    have same : (items.map Value.integer).filterMap Value.toInt64? = items := by
      rw [List.filterMap_map]
      exact List.filterMap_some
    rw [ColumnType.setOf, same]
    rfl
  jsonQuote_eq _ documented n := documented.jsonQuote_integer n
  nonzero n zero := by
    rcases Decimal.isDigit_of_mem_integer zero with sign | digit
    · exact absurd sign (by decide)
    · exact absurd digit (by decide)
  write_inj same := Int64.toInt_inj.mp (Decimal.integer_inj.mp same)

theorem plain_integer (n : Int64) : Plain (integers.word n) where
  nonempty := Decimal.integer_ne_nil n.toInt
  notSeparator c member separator := by
    rcases Decimal.isDigit_of_mem_integer member with rfl | digit
    · rcases separator with sign | sign | sign <;> exact absurd sign (by decide)
    · rcases separator with rfl | rfl | rfl <;> exact absurd digit (by decide)

theorem plain_integers {items : List Int64} {word : List Char}
    (member : word ∈ items.map integers.word) : Plain word := by
  rcases List.mem_map.mp member with ⟨n, _, rfl⟩
  exact plain_integer n

theorem legible_integers (items : List Int64) (n : Int64) :
    Legible (items.map integers.word) (integers.word n) :=
  legible_of_plain (fun _ => plain_integers) (plain_integer n)

/-- An integer has one of its marks in the text of a list exactly if it is in the list. -/
theorem found_integer_iff (items : List Int64) (n : Int64) :
    Found (integers.word n) (bracketed (items.map integers.word)) ↔ n ∈ items := by
  have faithful {left right : Char} (opens : left = '[' ∨ left = ',')
      (separates : IsSeparator right) :
      Faithful (items.map integers.word) left (integers.word n) right :=
    faithful_of_plain (fun _ => plain_integers) (plain_integer n) opens separates
  have comma : IsSeparator ',' := Or.inr (Or.inl rfl)
  have bracket : IsSeparator ']' := Or.inr (Or.inr rfl)
  rw [found_iff_mem (faithful (Or.inl rfl) bracket) (faithful (Or.inl rfl) comma)
    (faithful (Or.inr rfl) comma) (faithful (Or.inr rfl) bracket),
    List.mem_map_of_injective integers.word_injective]

/-! ## The value that is read back -/

def integersValue : Option (List Int64) → Value
  | none => .null
  | some items => .integerSet items

/-- The text of a list of integers is cast to the set of them. -/
theorem cast_integers (items : List Int64) :
    ColumnType.cast .integerSet (.ofScalar (integers.stored (some items))) =
      .ok (.integerSet items) := by
  have readItems : (items.map Json.ofInt64).mapM Json.integer? = some items :=
    mapM_map_of_readBack (fun n => show (Json.ofInt64 n).integer? = some n from rfl) items
  have readDocument : Json.read? (Json.array (items.map integers.json)).compact =
      some (.array (items.map Json.ofInt64)) := Json.read?_integers items
  have converted : ColumnType.convert? .integerSet (.ofScalar (integers.stored (some items))) =
      some (.integerSet items) := by
    change ColumnType.readSet? .integerSet _ = _
    rw [ColumnType.readSet?, readDocument]
    change ((items.map Json.ofInt64).mapM Json.integer?).map Value.integerSet = _
    rw [readItems]
    rfl
  rw [ColumnType.cast, converted]
  rfl

/-- A stored cell is read back as it was. -/
theorem castOrKeep_integers (cell : Option (List Int64)) :
    ColumnType.castOrKeep .integerSet (.ofScalar (integers.stored cell)) = integersValue cell := by
  cases cell with
  | none => rfl
  | some items =>
      rw [ColumnType.castOrKeep, cast_integers]
      rfl

/-- The value of a cell is accepted by membership exactly if the element is in the cell. -/
theorem accepts_contains_integers {sought : Scalar} {n : Int64}
    (operand : ColumnType.integerElement? (.ofScalar sought) = some n)
    (cell : Option (List Int64)) :
    (Predicate.contains sought).accepts (integersValue cell) = true ↔ ∃ items ∈ cell, n ∈ items := by
  cases cell with
  | none => exact iff_of_false Bool.false_ne_true (by rintro ⟨_, member, _⟩; exact nomatch member)
  | some items =>
      rw [integersValue, Predicate.accepts, Predicate.holdsElement, operand]
      simp

theorem accepts_lacks_integers {sought : Scalar} {n : Int64}
    (operand : ColumnType.integerElement? (.ofScalar sought) = some n)
    (cell : Option (List Int64)) :
    (Predicate.lacks sought).accepts (integersValue cell) = true ↔
      cell = none ∨ ∃ items ∈ cell, n ∉ items := by
  cases cell with
  | none => exact iff_of_true rfl (Or.inl rfl)
  | some items =>
      rw [integersValue, Predicate.accepts, Predicate.holdsElement, operand]
      simp [Value.isNull]

/-! ## What the store decides -/

section

variable {engine : Engine} {column : String} {cells : List String → Datum}
  {cell : Option (List Int64)} {sought : Scalar} {n : Int64} (documented : engine.Documented)
  (operand : ColumnType.integerElement? (.ofScalar sought) = some n)
  (holds : integers.Holds column cells cell) (earlier later : List Scalar)
include documented operand holds

theorem decides_contains_integers :
    Decides engine column .integerSet cells ⟨earlier, .contains sought, later⟩
      (∃ items ∈ cell, n ∈ items) := by
  cases cell with
  | none =>
      exact (decides_contains_null documented operand holds earlier later).congr (by simp)
  | some items =>
      have decided := decides_contains documented operand holds (found_integer_iff items n)
        earlier later
      exact decided.congr (by simp)

theorem decides_lacks_integers :
    Decides engine column .integerSet cells ⟨earlier, .lacks sought, later⟩
      (cell = none ∨ ∃ items ∈ cell, n ∉ items) := by
  cases cell with
  | none =>
      exact (decides_lacks_null documented operand holds earlier later).congr (by simp)
  | some items =>
      have decided := decides_lacks documented operand holds (found_integer_iff items n)
        earlier later
      exact decided.congr (by simp)

end

/-! ## Any number of changes -/

/-- Through any number of changes a column of integer sets follows the edits of a list, and
in the state that is reached membership is decided by that list, in the store and on the
value that is read from it. -/
theorem integers_follow_edits {engine : Engine} (documented : engine.Documented) {column : String}
    {cells : List String → Datum} {cell : Option (List Int64)}
    (holds : integers.Holds column cells cell) (distinct : SetEdit.Distinct cell)
    {changes : List (Part Change)} {edits : List (SetEdit Int64)}
    (follow : List.Forall₂ (fun change => integers.Edits change.content) changes edits)
    (keeps : ∀ edit ∈ edits, edit.KeepsDistinct) :
    ∃ reached : List String → Datum,
      changes.foldlM (edited engine column .integerSet) cells = .ok reached ∧
      reached = Function.update cells (Reference.ofText column).path
        (integers.stored (edits.foldl (fun cell edit => edit.apply cell) cell)).datum ∧
      ∀ (sought : Scalar) (n : Int64),
        ColumnType.integerElement? (.ofScalar sought) = some n →
        let final := edits.foldl (fun cell edit => edit.apply cell) cell
        let value := ColumnType.castOrKeep .integerSet (.ofScalar (integers.stored final))
        (∀ earlier later : List Scalar,
          Decides engine column .integerSet reached ⟨earlier, .contains sought, later⟩
            (∃ items ∈ final, n ∈ items) ∧
          Decides engine column .integerSet reached ⟨earlier, .lacks sought, later⟩
            (final = none ∨ ∃ items ∈ final, n ∉ items)) ∧
        ((Predicate.contains sought).accepts value = true ↔ ∃ items ∈ final, n ∈ items) ∧
        ((Predicate.lacks sought).accepts value = true ↔
          final = none ∨ ∃ items ∈ final, n ∉ items) := by
  refine ⟨_, edited_foldl documented legible_integers follow keeps holds distinct, rfl, ?_⟩
  intro sought n operand final value
  have reachedHolds : integers.Holds column
      (Function.update cells (Reference.ofText column).path (integers.stored final).datum) final :=
    Function.update_self _ _ _
  have value_eq : value = integersValue final := castOrKeep_integers final
  refine ⟨fun earlier later => ⟨?_, ?_⟩, ?_, ?_⟩
  · exact decides_contains_integers documented operand reachedHolds earlier later
  · exact decides_lacks_integers documented operand reachedHolds earlier later
  · rw [value_eq, accepts_contains_integers operand]
  · rw [value_eq, accepts_lacks_integers operand]

/-- A list gets an element that begins like its first one, and then loses the first one. -/
theorem integers_follow_edits_tags :
    ∃ reached : List String → Datum,
      List.foldlM (edited .reference "tags" .integerSet)
          (fun _ => (integers.stored (some [1, 11, -1])).datum)
          [⟨[], .add (.integer 111), []⟩, ⟨[.text "ann"], .remove (.bool true), [.null]⟩] =
        .ok reached ∧
      reached (Reference.ofText "tags").path = .text "[11,-1,111]" := by
  have holds : integers.Holds "tags" (fun _ => (integers.stored (some [1, 11, -1])).datum)
    (some [1, 11, -1]) := rfl
  have distinct : SetEdit.Distinct (some [(1 : Int64), 11, -1]) := by
    intro items same
    cases same
    decide
  have follow : List.Forall₂ (fun change : Part Change => integers.Edits change.content)
      [⟨[], .add (.integer 111), []⟩, ⟨[.text "ann"], .remove (.bool true), [.null]⟩]
      [.add 111, .remove 1] :=
    .cons (.add rfl) (.cons (.remove rfl) .nil)
  have keeps : ∀ edit ∈ [SetEdit.add (111 : Int64), .remove 1], edit.KeepsDistinct := by
    intro edit member
    rcases List.mem_pair.mp member with rfl | rfl <;> trivial
  rcases integers_follow_edits Engine.reference_documented holds distinct follow keeps with
    ⟨reached, run, cells, _⟩
  refine ⟨reached, run, ?_⟩
  rw [cells, Function.update_self]
  rfl

end SetColumn
end DocumentQuery
