import DocumentQuery.Proofs.Sets.Cells
import DocumentQuery.Proofs.Sets.Removal

namespace DocumentQuery

open Brackets Json Sql

/-!
# Columns of text sets

The word of a text is the text in quotes.  Looking it up, adding and removing it do what
they should for every text but one.  A text of one comma may be mistaken for the border of
two neighbours, so that it is found where it is not, is not added where it is missing, and
is removed together with that border.  The conditions under which this happens are exact:
wherever they do not hold, a comma is treated like any other text.
-/

namespace SetColumn

/-- A column of text sets. -/
def texts : SetColumn String where
  type := .textSet
  element? := ColumnType.textElement?
  value := .text
  json := Json.string
  isSet := rfl
  element?_eq _ := rfl
  element?_value _ := rfl
  setOf_eq items := by
    have same : (items.map Value.text).filterMap Value.toText? = items := by
      rw [List.filterMap_map]
      exact List.filterMap_some
    change (Value.textSet ((items.map Value.text).filterMap Value.toText?)).toScalar = _
    rw [same]
    rfl
  jsonQuote_eq _ documented s := documented.jsonQuote_text s
  nonzero s := nonzero_writeString s.toList
  write_inj same := quoted_injective same

/-- A comma is found though it is not in the list. -/
def Misfound (xs : List String) (v : String) : Prop :=
  v = "," ∧ v ∉ xs ∧ (Meets xs '[' ']' ∨ MeetsBeside xs)

/-- A comma is taken for an element, and not added. -/
def Misadded (xs : List String) (v : String) : Prop :=
  v = "," ∧ v ∉ xs ∧ MeetsBeside xs

section

variable {engine : Engine} {column : String} {cells : List String → Datum} {xs : List String}
  {v : String} (documented : engine.Documented) (holds : texts.Holds column cells (some xs))
include documented holds

/-- A text is found exactly where it is, unless it is a comma that is misfound. -/
theorem decides_contains_texts_iff {sought : Scalar}
    (operand : ColumnType.textElement? (.ofScalar sought) = some v) (earlier later : List Scalar) :
    Decides engine column .textSet cells ⟨earlier, .contains sought, later⟩ (v ∈ xs) ↔
      ¬ Misfound xs v := by
  have decided := decides_contains documented operand holds (found_quoted_iff xs v) earlier later
  constructor
  · rintro right ⟨comma, missing, looks⟩
    exact missing ((right.iff decided).mpr (Or.inr ⟨comma, looks⟩))
  · intro found
    refine decided.congr ⟨fun shown => ?_, Or.inl⟩
    by_contra missing
    rcases shown.resolve_left missing with ⟨comma, looks⟩
    exact found ⟨comma, missing, looks⟩

omit documented holds in
/-- What is put into a cell is the text of one list only. -/
theorem updated_eq_iff {t : List Char} {ys : List String} :
    (Except.ok (Function.update cells (Reference.ofText column).path (.text (String.ofList t))) :
        Except QueryError (List String → Datum)) =
      .ok (Function.update cells (Reference.ofText column).path (texts.stored (some ys)).datum) ↔
    t = bracketed (ys.map quoted) := by
  constructor
  · intro same
    have data := Function.update_injective _ _ (Except.ok.inj same)
    rw [texts.stored_some] at data
    exact String.ofList_inj.mp (Datum.text.inj data)
  · rintro rfl
    rw [texts.stored_some]
    rfl

/-- A text is added as it should be, unless it is a comma that is misadded. -/
theorem edited_add_texts_iff {operand : Value} (accepted : ColumnType.textElement? operand = some v)
    (earlier later : List Scalar) :
    edited engine column .textSet cells ⟨earlier, .add operand, later⟩ =
        .ok (Function.update cells (Reference.ofText column).path
          (texts.stored ((SetEdit.add v).apply (some xs))).datum) ↔
      ¬ Misadded xs v := by
  classical
  let change : Part Change := ⟨earlier, .add operand, later⟩
  have edits : texts.Edits change.content (.add v) := .add accepted
  have outcome := edited_add documented edits holds (inserted_quoted xs v)
  change edited engine column texts.type cells change = _ ↔ _
  rw [outcome, SetEdit.apply, updated_eq_iff]
  by_cases member : v ∈ xs
  · rw [if_pos (Or.inl member), if_pos member]
    exact iff_of_true rfl fun misadded => misadded.2.1 member
  · rw [if_neg member]
    by_cases looks : v = "," ∧ MeetsBeside xs
    · rw [if_pos (Or.inr looks)]
      refine iff_of_false (fun same => ?_) fun added => added ⟨looks.1, member, looks.2⟩
      exact absurd (bracketed_quoted_inj same) (by simp)
    · rw [if_neg (not_or_intro member looks)]
      exact iff_of_true rfl fun misadded => looks ⟨misadded.1, misadded.2.2⟩

/-- A text is removed as it should be, unless it is a comma that is misremoved. -/
theorem edited_remove_texts_iff (distinct : xs.Nodup) {operand : Value}
    (accepted : ColumnType.textElement? operand = some v) (earlier later : List Scalar) :
    edited engine column .textSet cells ⟨earlier, .remove operand, later⟩ =
        .ok (Function.update cells (Reference.ofText column).path
          (texts.stored ((SetEdit.remove v).apply (some xs))).datum) ↔
      ¬ (v = "," ∧ Misremoved xs) := by
  let change : Part Change := ⟨earlier, .remove operand, later⟩
  have edits : texts.Edits change.content (.remove v) := .remove accepted
  change edited engine column texts.type cells change = _ ↔ _
  rw [SetEdit.apply, ← SetEdit.erase_eq_filter distinct]
  by_cases comma : v = ","
  · subst comma
    by_cases damaged : Misremoved xs
    · rcases exists_removed (quoted ",") (bracketed (xs.map quoted)) with ⟨t, removed⟩
      rw [edited_remove documented edits holds removed, updated_eq_iff]
      exact iff_of_false (removed_comma_ne distinct damaged removed) fun right =>
        right ⟨rfl, damaged⟩
    · rw [edited_remove documented edits holds (removed_comma distinct damaged), updated_eq_iff]
      exact iff_of_true rfl fun misremoved => damaged misremoved.2
  · have wordsDistinct := distinct.map quoted_injective
    have removed := (legible_quoted xs comma).removed wordsDistinct
    rw [← List.map_erase quoted_injective] at removed
    rw [edited_remove documented edits holds removed, updated_eq_iff]
    exact iff_of_true rfl fun misremoved => comma misremoved.1

end

/-- A column of text sets is a set of texts, with the exact exceptions: a text is found, added
and removed as it should be unless it is a comma, and then unless neighbours in the list
look like it. -/
theorem texts_edit_iff {engine : Engine} (documented : engine.Documented) {column : String}
    {cells : List String → Datum} {xs : List String} (holds : texts.Holds column cells (some xs))
    (distinct : xs.Nodup) (v : String) (earlier later : List Scalar) :
    (∀ sought : Scalar, ColumnType.textElement? (.ofScalar sought) = some v →
      (Decides engine column .textSet cells ⟨earlier, .contains sought, later⟩ (v ∈ xs) ↔
        ¬ Misfound xs v)) ∧
    ∀ operand : Value, ColumnType.textElement? operand = some v →
      (edited engine column .textSet cells ⟨earlier, .add operand, later⟩ =
          .ok (Function.update cells (Reference.ofText column).path
            (texts.stored ((SetEdit.add v).apply (some xs))).datum) ↔
        ¬ Misadded xs v) ∧
      (edited engine column .textSet cells ⟨earlier, .remove operand, later⟩ =
          .ok (Function.update cells (Reference.ofText column).path
            (texts.stored ((SetEdit.remove v).apply (some xs))).datum) ↔
        ¬ (v = "," ∧ Misremoved xs)) :=
  ⟨fun _ operand => decides_contains_texts_iff documented holds operand earlier later,
    fun _ accepted => ⟨edited_add_texts_iff documented holds accepted earlier later,
      edited_remove_texts_iff documented holds distinct accepted earlier later⟩⟩

/-- Between a text that ends with a comma and one that begins with a comma, a comma is found
and not added, and removing it changes the list. -/
theorem texts_edit_border :
    ¬ Decides .reference "tags" .textSet (fun _ => (texts.stored (some ["x,", ",y"])).datum)
        ⟨[], .contains (.text ","), []⟩ ("," ∈ ["x,", ",y"]) ∧
      edited .reference "tags" .textSet (fun _ => (texts.stored (some ["x,", ",y"])).datum)
          ⟨[], .add (.text ","), []⟩ ≠
        .ok (Function.update (fun _ => (texts.stored (some ["x,", ",y"])).datum)
          (Reference.ofText "tags").path (texts.stored (some ["x,", ",y", ","])).datum) ∧
      edited .reference "tags" .textSet (fun _ => (texts.stored (some ["x,", ",y"])).datum)
          ⟨[], .remove (.text ","), []⟩ ≠
        .ok (Function.update (fun _ => (texts.stored (some ["x,", ",y"])).datum)
          (Reference.ofText "tags").path (texts.stored (some ["x,", ",y"])).datum) := by
  have holds : texts.Holds "tags" (fun _ => (texts.stored (some ["x,", ",y"])).datum)
    (some ["x,", ",y"]) := rfl
  have distinct : ["x,", ",y"].Nodup := by decide
  have missing : "," ∉ ["x,", ",y"] := by decide
  have meet : Meet ["x,", ",y"] ',' ',' "x," ",y" := ⟨⟨[], [], rfl⟩, rfl, rfl⟩
  have looks : MeetsBeside ["x,", ",y"] := Or.inr (Or.inl ⟨"x,", ",y", meet⟩)
  have notFirst : ¬ Shown ["x,", ",y"] '[' ',' := by
    rintro (stands | ⟨x, y, other⟩)
    · exact missing stands.mem
    · cases other.beside.eq_of_length rfl
      exact absurd other.ends (by decide)
  have misremoved : Misremoved ["x,", ",y"] :=
    .middle notFirst ⟨"x,", ",y", by decide, by decide, meet⟩
  rcases texts_edit_iff Engine.reference_documented holds distinct "," [] [] with ⟨found, edit⟩
  rcases edit (.text ",") rfl with ⟨added, removed⟩
  refine ⟨?_, ?_, ?_⟩
  · exact fun right => (found (.text ",") rfl).mp right ⟨rfl, missing, Or.inr looks⟩
  · exact fun right => added.mp right ⟨rfl, missing, looks⟩
  · exact fun right => removed.mp right ⟨rfl, misremoved⟩

end SetColumn
end DocumentQuery
