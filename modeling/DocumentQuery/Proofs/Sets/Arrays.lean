import DocumentQuery.Change
import DocumentQuery.Proofs.Decimal.Digits
import DocumentQuery.Proofs.Sets.Storage

namespace DocumentQuery

open Json

/-!
# Arrays written to columns of text sets

A JSON array becomes a value before it is known for which column.  If all its items are 64-bit
integers or all are strings, the value is a set, whose elements are brought to the type of the
column one by one.  Every other array becomes its own text, and a text is a single element.

So what is stored for an array depends on all of its items at once.  Strings, numbers and truth
values each have a text as an element, but these texts are stored only for an array of one kind.
With a mixture in it, with reals, with truth values or with integers beyond 64 bits, the column
receives one element: the text of the whole array.  The two never agree by chance, because that
text has a bracket in it and no text of a number or a truth value has one.
-/

namespace Json

/-- The item is a string, a number or a truth value. -/
def isItem : Json → Bool
  | .bool _ => true
  | .number _ => true
  | .string _ => true
  | _ => false

/-- The items are 64-bit integers without exception, or strings without exception. -/
def Uniform (items : List Json) : Prop :=
  (∃ integers : List Int64, items = integers.map .ofInt64) ∨
    ∃ texts : List String, items = texts.map .string

/-- Different lists of strings are written differently. -/
theorem compact_strings_inj {texts others : List String}
    (same : (Json.array (texts.map .string)).compact = (Json.array (others.map .string)).compact) :
    texts = others := by
  have read := read?_strings others
  rw [← same, read?_strings texts, Option.some_inj, Json.array.injEq] at read
  exact List.map_injective_iff.mpr (fun _ _ => Json.string.inj) read

theorem bracket_mem_compact_array (items : List Json) :
    '[' ∈ (Json.array items).compact.toList := by
  rw [compact, String.toList_ofList, write]
  exact List.mem_append_left _ List.mem_cons_self

end Json

/-- Where an item can only be read off what is written for it, so can a list of items. -/
theorem eq_map_of_mapM_some {α β : Type} {read? : α → Option β} {write : β → α}
    (written : ∀ (a : α) (b : β), read? a = some b → a = write b) {items : List α} {read : List β}
    (all : items.mapM read? = some read) : items = read.map write := by
  have each := forall₂_of_mapM_some all
  clear all
  induction each with
  | nil => rfl
  | @cons a b _ _ first _ inductionHypothesis =>
      rw [List.map_cons, ← written a b first, ← inductionHypothesis]

/-! ## The value of an array -/

namespace Value

theorem ofJson_integers (integers : List Int64) :
    ofJson (.array (integers.map .ofInt64)) = .integerSet integers := by
  have readBack (n : Int64) : (Json.ofInt64 n).integer? = some n := rfl
  have all := mapM_map_of_readBack readBack integers
  rw [ofJson, ofJsonArray, all]

/-- The array of no strings is an array of no integers. -/
theorem ofJson_strings {texts : List String} (nonempty : texts ≠ []) :
    ofJson (.array (texts.map .string)) = .textSet texts := by
  have readBack (s : String) : (Json.string s).string? = some s := rfl
  have all := mapM_map_of_readBack readBack texts
  rcases List.exists_cons_of_ne_nil nonempty with ⟨first, rest, rfl⟩
  have noIntegers : ((first :: rest).map Json.string).mapM Json.integer? = none := rfl
  rw [ofJson, ofJsonArray, noIntegers, all]

theorem ofJson_mixture {items : List Json} (mixture : ¬ Uniform items) :
    ofJson (.array items) = .text (Json.array items).compact := by
  have noIntegers : items.mapM Json.integer? = none := by
    rw [Option.eq_none_iff_forall_ne_some]
    refine fun integers all => mixture (.inl ⟨integers, eq_map_of_mapM_some ?_ all⟩)
    rintro (_ | _ | ⟨_ | _ | _⟩ | _ | _ | _) n read <;> cases read
    rfl
  have noStrings : items.mapM Json.string? = none := by
    rw [Option.eq_none_iff_forall_ne_some]
    refine fun texts all => mixture (.inr ⟨texts, eq_map_of_mapM_some ?_ all⟩)
    rintro (_ | _ | _ | _ | _ | _) s read <;> cases read
    rfl
  rw [ofJson, ofJsonArray, noIntegers, noStrings]

end Value

/-! ## What is stored -/

namespace ColumnType

/-- Every item has a text as an element. -/
theorem exists_elementTexts {items : List Json} (plain : ∀ item ∈ items, item.isItem = true) :
    ∃ texts : List String,
      List.Forall₂ (fun item s => textElement? (.ofJson item) = some s) items texts := by
  rcases exists_none_or_forall₂ (fun item => textElement? (.ofJson item)) items with
    ⟨item, member, refused⟩ | found
  · have isItem := plain item member
    cases item with
    | bool b => exact nomatch refused
    | number n => cases n <;> exact nomatch refused
    | string s => exact nomatch refused
    | _ => exact nomatch isItem
  · exact found

/-- The text of a number or a truth value as an element has no bracket. -/
theorem bracket_notMem_element {item : Json} {s : String}
    (element : textElement? (.ofJson item) = some s) (notString : ∀ t : String, item ≠ .string t)
    (isItem : item.isItem = true) : '[' ∉ s.toList := by
  cases item with
  | bool b =>
      cases element
      cases b <;> decide
  | number n =>
      cases n with
      | integer n =>
          cases element
          rw [integerText, String.toList_ofList]
          exact fun member => absurd (Decimal.isDigit_of_mem_integer member) (by decide)
      | large n =>
          cases element
          exact Decimal.bracket_notMem_realText _
      | real x =>
          cases element
          exact Decimal.bracket_notMem_realText x
  | string t => exact absurd rfl (notString t)
  | _ => exact nomatch isItem

theorem stored_uniform {items : List Json} {texts : List String} (uniform : Uniform items)
    (elements : List.Forall₂ (fun item s => textElement? (.ofJson item) = some s) items texts) :
    textSet.stored (.ofJson (.array items)) =
      .ok (.text (Json.array (texts.map .string)).compact) := by
  rcases uniform with ⟨integers, rfl⟩ | ⟨strings, rfl⟩
  · rw [Value.ofJson_integers]
    refine SetColumn.texts.stored_elements rfl ?_
    exact List.forall₂_map_left_iff.mpr (List.forall₂_map_left_iff.mp elements)
  · by_cases empty : strings = []
    · subst empty
      cases elements
      rfl
    · rw [Value.ofJson_strings empty]
      refine SetColumn.texts.stored_elements rfl ?_
      exact List.forall₂_map_left_iff.mpr (List.forall₂_map_left_iff.mp elements)

theorem stored_mixture {items : List Json} (mixture : ¬ Uniform items) :
    textSet.stored (.ofJson (.array items)) =
      .ok (.text (Json.array [.string (Json.array items).compact]).compact) := by
  rw [Value.ofJson_mixture mixture]
  rfl

/-- The texts of the items of a mixture are never the text of the mixture alone. -/
theorem texts_ne_of_mixture {items : List Json} {texts : List String} (mixture : ¬ Uniform items)
    (plain : ∀ item ∈ items, item.isItem = true)
    (elements : List.Forall₂ (fun item s => textElement? (.ofJson item) = some s) items texts) :
    texts ≠ [(Json.array items).compact] := by
  rintro rfl
  rcases List.forall₂_cons_right_iff.mp elements with ⟨item, rest, element, nothing, rfl⟩
  rw [List.forall₂_nil_right_iff.mp nothing] at *
  have notString (t : String) : item ≠ .string t := by
    rintro rfl
    exact mixture (.inr ⟨[t], rfl⟩)
  exact bracket_notMem_element element notString (plain item List.mem_cons_self)
    (bracket_mem_compact_array _)

/-- An array of strings, numbers and truth values is stored in a column of text sets as the list of
its items exactly if these are all 64-bit integers or all strings.  Otherwise it is stored as one
element, the text of the array. -/
theorem stored_array_iff {items : List Json} (plain : ∀ item ∈ items, item.isItem = true) :
    ∃ texts : List String,
      List.Forall₂ (fun item s => textSet.element (.ofJson item) = .ok (.text s)) items texts ∧
      Change.ofJson (.array items) = .ok (.set (.ofJson (.array items))) ∧
      (textSet.stored (.ofJson (.array items)) =
          .ok (.text (Json.array (texts.map .string)).compact) ↔ Uniform items) ∧
      (¬ Uniform items → textSet.stored (.ofJson (.array items)) =
          .ok (.text (Json.array [.string (Json.array items).compact]).compact)) := by
  rcases exists_elementTexts plain with ⟨texts, elements⟩
  have accepted := elements.imp fun _ _ operand => SetColumn.texts.element_eq operand
  refine ⟨texts, accepted, rfl, ⟨fun stored => ?_, fun uniform => ?_⟩, stored_mixture⟩
  · by_contra mixture
    have same := (stored_mixture mixture).symm.trans stored
    have texts_eq : [(Json.array items).compact] = texts :=
      compact_strings_inj (Scalar.text.inj (Except.ok.inj same))
    exact texts_ne_of_mixture mixture plain elements texts_eq.symm
  · exact stored_uniform uniform elements

/-- A string beside an integer makes one element of both. -/
theorem stored_array_mixture :
    let items : List Json := [.string "a", .ofInt64 1]
    (∀ item ∈ items, item.isItem = true) ∧ ¬ Uniform items ∧
      List.Forall₂ (fun item s => textSet.element (.ofJson item) = .ok (.text s)) items ["a", "1"] ∧
      Change.ofJson (.array items) = .ok (.set (.ofJson (.array items))) ∧
      textSet.stored (.ofJson (.array items)) = .ok (.text "[\"[\\\"a\\\",1]\"]") ∧
      textSet.stored (.ofJson (.array items)) ≠ .ok (.text "[\"a\",\"1\"]") := by
  have plain : ∀ item ∈ [Json.string "a", .ofInt64 1], item.isItem = true := by
    simp [isItem, ofInt64]
  have mixture : ¬ Uniform [.string "a", .ofInt64 1] := by
    rintro (⟨_ | ⟨n, rest⟩, same⟩ | ⟨_ | ⟨s, _ | ⟨t, rest⟩⟩, same⟩) <;> cases same
  rcases stored_array_iff plain with ⟨texts, elements, change, stored_iff, stored⟩
  rcases elements with _ | ⟨first, _ | ⟨second, _ | _⟩⟩
  cases first
  cases second
  have mistaken := stored_iff.not.mpr mixture
  exact ⟨plain, mixture, .cons rfl (.cons rfl .nil), change, stored mixture, mistaken⟩

end ColumnType
end DocumentQuery
