import DocumentQuery.Proofs.Sets.Integers
import DocumentQuery.Proofs.Sets.Texts

namespace DocumentQuery

open Sql

/-!
# Stored sets are read back

What is written into a set column is brought to the type of its elements, put into a list and
written as the text of a JSON array.  Reading parses the text and converts its items.  The two
ways meet: a value is refused for a part of it that is no element of the type, null is stored as
null, and every other value is stored as a text that is cast to the set of its elements, in their
order and with none left out.  The elements may be any texts and any 64-bit integers.

Both types of set columns are a `SetColumn`, so the writing side is shown once for both.
-/

/-- The value is the set of this type with these elements in order. -/
inductive IsSetOf : ColumnType → List Value → Value → Prop where
  | integers (items : List Int64) : IsSetOf .integerSet (items.map .integer) (.integerSet items)
  | texts (items : List String) : IsSetOf .textSet (items.map .text) (.textSet items)

/-- What is stored for a value in a column of this type is what is read back from it: nothing for a
value with a part that is refused, null for null, and for every other value the text of the set of
its elements. -/
structure ReadsBack (type : ColumnType) (v : Value) : Prop where
  refused_iff : (∃ fault, type.stored v = .error fault) ↔
    v ≠ .null ∧ ∃ part ∈ ColumnType.elementsOf v, ∃ fault, type.element part = .error fault
  null_iff : type.stored v = .ok .null ↔ v = .null
  cast_eq : ∀ scalar, type.stored v = .ok scalar → v ≠ .null →
    ∃ (s : String) (elements : List Value) (set : Value), scalar = .text s ∧
      List.Forall₂ (fun part e => type.element part = .ok e) (ColumnType.elementsOf v) elements ∧
      IsSetOf type elements set ∧ type.cast (.text s) = .ok set

namespace SetColumn

variable {α : Type} (c : SetColumn α)

theorem element_refused {v : Value} (refused : c.element? v = none) :
    ∃ fault, c.type.element v = .error fault := by
  rw [ColumnType.element, c.element?_eq, refused]
  exact ⟨_, rfl⟩

theorem stored_refused {v : Value} (notNull : v.isNull = false)
    (refused : ∃ part ∈ ColumnType.elementsOf v, ∃ fault, c.type.element part = .error fault) :
    ∃ fault, c.type.stored v = .error fault := by
  rcases mapM_error refused with ⟨_, _, fault, _, checked⟩
  rw [ColumnType.stored, c.isSet, notNull, checked]
  exact ⟨fault, rfl⟩

/-- A set column whose texts are cast to the sets of their elements reads back what is stored. -/
theorem readsBack {set : List α → Value}
    (isSetOf : ∀ items : List α, IsSetOf c.type (items.map c.value) (set items))
    (cast_eq : ∀ items : List α, c.type.cast (.ofScalar (c.stored (some items))) = .ok (set items))
    (v : Value) : ReadsBack c.type v := by
  by_cases null : v = .null
  · subst null
    have stored := c.stored_null
    refine ⟨?_, iff_of_true stored rfl, fun _ _ notNull => absurd rfl notNull⟩
    refine iff_of_false ?_ fun refused => refused.1 rfl
    rintro ⟨fault, failed⟩
    exact nomatch stored.symm.trans failed
  have notNull : v.isNull = false :=
    Bool.eq_false_iff.mpr fun isNull => null (v.isNull_iff.mp isNull)
  rcases exists_none_or_forall₂ c.element? (ColumnType.elementsOf v) with
    ⟨part, member, refused⟩ | ⟨items, elements⟩
  · have partRefused := c.element_refused refused
    rcases c.stored_refused notNull ⟨part, member, partRefused⟩ with ⟨fault, failed⟩
    refine ⟨iff_of_true ⟨fault, failed⟩ ⟨null, part, member, partRefused⟩, ?_, ?_⟩
    · exact iff_of_false (fun stored => nomatch failed.symm.trans stored) null
    · exact fun scalar stored => nomatch failed.symm.trans stored
  · have stored := c.stored_elements notNull elements
    refine ⟨iff_of_false ?_ ?_, iff_of_false ?_ null, ?_⟩
    · rintro ⟨fault, failed⟩
      exact nomatch stored.symm.trans failed
    · rintro ⟨_, refused⟩
      rcases c.stored_refused notNull refused with ⟨fault, failed⟩
      exact nomatch stored.symm.trans failed
    · intro storedNull
      exact nomatch stored.symm.trans storedNull
    · intro scalar storedScalar _
      cases stored.symm.trans storedScalar
      exact ⟨_, _, set items, rfl, c.accepted_elements elements, isSetOf items, cast_eq items⟩

/-- The text of a list of texts is cast to the set of them. -/
theorem cast_texts (items : List String) :
    ColumnType.cast .textSet (.ofScalar (texts.stored (some items))) = .ok (.textSet items) := by
  have readItems : (items.map Json.string).mapM ColumnType.setItemText? = some items :=
    mapM_map_of_readBack (fun s => show ColumnType.setItemText? (.string s) = some s from rfl) items
  have readDocument : Json.read? (Json.array (items.map texts.json)).compact =
      some (.array (items.map Json.string)) := Json.read?_strings items
  have converted : ColumnType.convert? .textSet (.ofScalar (texts.stored (some items))) =
      some (.textSet items) := by
    change ColumnType.readSet? .textSet _ = _
    rw [ColumnType.readSet?, readDocument]
    change ((items.map Json.string).mapM ColumnType.setItemText?).map Value.textSet = _
    rw [readItems]
    rfl
  rw [ColumnType.cast, converted]
  rfl

end SetColumn

/-- Every value is read back from a set column as it was stored there. -/
theorem readsBack_stored {type : ColumnType} (isSet : type.isSet = true) (v : Value) :
    ReadsBack type v := by
  cases type with
  | integerSet => exact SetColumn.integers.readsBack .integers SetColumn.cast_integers v
  | textSet => exact SetColumn.texts.readsBack .texts SetColumn.cast_texts v
  | _ => exact nomatch isSet

/-- Texts with quotes, backslashes, separators and control characters are read back as they were. -/
theorem readsBack_stored_quotes :
    let v : Value := .textSet ["say \"x\"", "\\n,]", "\n\x01"]
    let s := "[\"say \\\"x\\\"\",\"\\\\n,]\",\"\\n\\u0001\"]"
    ColumnType.textSet.isSet = true ∧ ColumnType.stored .textSet v = .ok (.text s) ∧
      ColumnType.cast .textSet (.text s) = .ok v := by
  intro v s
  have isSet : ColumnType.textSet.isSet = true := rfl
  have stored : ColumnType.stored .textSet v = .ok (.text s) := by rfl
  have notNull : v ≠ .null := nofun
  rcases (readsBack_stored isSet v).cast_eq _ stored notNull with
    ⟨_, _, set, same, images, isSetOf, cast⟩
  cases same
  cases isSetOf with
  | texts items =>
      have items_eq : items = ["say \"x\"", "\\n,]", "\n\x01"] := by
        have texts := List.forall₂_map_right_iff.mp images
        rcases texts with _ | ⟨first, _ | ⟨second, _ | ⟨third, _ | _⟩⟩⟩
        cases first
        cases second
        cases third
        rfl
      rw [items_eq] at cast
      exact ⟨isSet, stored, cast⟩

end DocumentQuery
