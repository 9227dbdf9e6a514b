import DocumentQuery.Proofs.Sets.Editing
import DocumentQuery.Proofs.Sql.Operands
import Mathlib.Logic.Function.Basic

namespace DocumentQuery

open Brackets Sql

/-!
# Set columns

A set column keeps null or the text of a list.  Its two types differ in their elements: how
a value is brought to an element, and how an element is written.  A `SetColumn` holds that
difference together with what makes the two types alike, so that what an expression does to
a cell is shown once for both.

An update of a row evaluates the expression that is built for a change, with the scalars
that are bound by then, and puts the result into the cell.
-/

/-- Items that are each read back are all read back. -/
theorem mapM_map_of_readBack {α β : Type} {write : α → β} {read? : β → Option α}
    (readBack : ∀ item : α, read? (write item) = some item) (items : List α) :
    (items.map write).mapM read? = some items := by
  induction items with
  | nil => rfl
  | cons item rest inductionHypothesis =>
      rw [List.map_cons, List.mapM_cons, inductionHypothesis, readBack]
      rfl

/-- A type of set columns with elements in `α`. -/
structure SetColumn (α : Type) where
  type : ColumnType
  /-- The element that an operand stands for. -/
  element? : Value → Option α
  /-- An element as a value. -/
  value : α → Value
  /-- An element as it is written. -/
  json : α → Json
  isSet : type.isSet = true
  element?_eq : ∀ v : Value, type.element? v = (element? v).map value
  element?_value : ∀ e : α, element? (value e) = some e
  setOf_eq : ∀ items : List α, (type.setOf (items.map value)).toScalar =
    .text (Json.array (items.map json)).compact
  jsonQuote_eq : ∀ engine : Engine, engine.Documented → ∀ e : α,
    engine.jsonQuote (value e).toScalar.datum = .text (json e).compact
  nonzero : ∀ e : α, '\x00' ∉ (json e).write
  write_inj : ∀ {e f : α}, (json e).write = (json f).write → e = f

namespace SetColumn

variable {α : Type} (c : SetColumn α)

def word (e : α) : List Char :=
  (c.json e).write

/-- The scalar that is stored for null or a list of elements. -/
def stored : Option (List α) → Scalar
  | none => .null
  | some items => .text (Json.array (items.map c.json)).compact

theorem word_injective : Function.Injective c.word :=
  fun _ _ same => c.write_inj same

theorem stored_some (items : List α) :
    (c.stored (some items)).datum = .text (String.ofList (bracketed (items.map c.word))) := by
  have words_eq : (items.map c.json).map Json.write = items.map c.word := List.map_map
  rw [stored, Scalar.datum, Json.compact, write_array, words_eq]

theorem isNumeric_eq : c.type.isNumeric = false := by
  have set := c.isSet
  cases type : c.type <;> rw [type] at set
  all_goals first
    | rfl
    | exact absurd set Bool.false_ne_true

theorem element_eq {v : Value} {e : α} (operand : c.element? v = some e) :
    c.type.element v = .ok (c.value e) := by
  rw [ColumnType.element, c.element?_eq, operand]
  rfl

/-- Parts that stand for elements are accepted as these elements. -/
theorem accepted_elements {values : List Value} {items : List α}
    (elements : List.Forall₂ (fun v e => c.element? v = some e) values items) :
    List.Forall₂ (fun v e => c.type.element v = .ok e) values (items.map c.value) :=
  List.forall₂_map_right_iff.mpr (elements.imp fun _ _ operand => c.element_eq operand)

/-- A value other than null is stored as the list of the elements that its parts stand for. -/
theorem stored_elements {v : Value} {items : List α} (notNull : v.isNull = false)
    (elements : List.Forall₂ (fun v e => c.element? v = some e) (ColumnType.elementsOf v) items) :
    c.type.stored v = .ok (c.stored (some items)) := by
  rw [ColumnType.stored, c.isSet, notNull, mapM_ok (c.accepted_elements elements)]
  exact congrArg Except.ok (c.setOf_eq items)

theorem stored_eq {v : Value} {items : List α} (notNull : v.isNull = false)
    (operands : (ColumnType.elementsOf v).mapM c.element? = some items) :
    c.type.stored v = .ok (c.stored (some items)) :=
  c.stored_elements notNull (forall₂_of_mapM_some operands)

theorem stored_null : c.type.stored .null = .ok (c.stored none) := by
  rw [ColumnType.stored, c.isSet]
  rfl

end SetColumn

/-! ## Edits -/

/-- What a change does to a set column: it puts a cell into it, or adds or removes an
element. -/
inductive SetEdit (α : Type) where
  | set (cell : Option (List α))
  | add (e : α)
  | remove (e : α)

namespace SetEdit

variable {α : Type} [DecidableEq α]

/-- The cell after an edit.  A missing element is added at the end, null becoming the list of
it alone, and removal keeps the order of the others and leaves null alone. -/
def apply : SetEdit α → Option (List α) → Option (List α)
  | set cell, _ => cell
  | add e, none => some [e]
  | add e, some items => some (if e ∈ items then items else items ++ [e])
  | remove _, none => none
  | remove e, some items => some (items.filter (· ≠ e))

/-- In a list without repetitions removal takes out one element. -/
theorem erase_eq_filter {items : List α} (distinct : items.Nodup) (e : α) :
    items.erase e = items.filter (· ≠ e) := by
  rw [distinct.erase_eq_filter]
  exact List.filter_congr fun other _ => by rw [bne, decide_not, beq_eq_decide]

/-- A cell without repetitions. -/
def Distinct (cell : Option (List α)) : Prop :=
  ∀ items : List α, cell = some items → items.Nodup

/-- The edit keeps cells without repetitions. -/
def KeepsDistinct : SetEdit α → Prop
  | set cell => Distinct cell
  | _ => True

theorem distinct_apply {edit : SetEdit α} (keeps : edit.KeepsDistinct) {cell : Option (List α)}
    (distinct : Distinct cell) : Distinct (edit.apply cell) := by
  intro items result
  cases edit with
  | set other => exact keeps items result
  | add e =>
      cases cell with
      | none =>
          cases result
          exact List.nodup_singleton e
      | some old =>
          have oldDistinct := distinct old rfl
          by_cases member : e ∈ old
          · rw [apply, if_pos member] at result
            cases result
            exact oldDistinct
          · rw [apply, if_neg member] at result
            cases result
            rw [List.nodup_append]
            refine ⟨oldDistinct, List.nodup_singleton e, ?_⟩
            intro a earlier b last same
            rw [same, List.mem_singleton.mp last] at earlier
            exact member earlier
  | remove e =>
      cases cell with
      | none => exact nomatch result
      | some old =>
          cases result
          exact (distinct old rfl).filter _

end SetEdit

/-- The change is an edit of a set column, with any operand that stands for the elements. -/
inductive SetColumn.Edits {α : Type} (c : SetColumn α) : Change → SetEdit α → Prop where
  | setNull : c.Edits (.set .null) (.set none)
  | set {v : Value} {items : List α} (notNull : v.isNull = false)
      (operands : (ColumnType.elementsOf v).mapM c.element? = some items) :
      c.Edits (.set v) (.set (some items))
  | add {v : Value} {e : α} (operand : c.element? v = some e) : c.Edits (.add v) (.add e)
  | remove {v : Value} {e : α} (operand : c.element? v = some e) :
      c.Edits (.remove v) (.remove e)

end DocumentQuery
