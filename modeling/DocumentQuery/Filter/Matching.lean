import DocumentQuery.Filter.Basic
import DocumentQuery.Filter.Pattern
import DocumentQuery.Value.SetElement
import DocumentQuery.Json.Tree

namespace DocumentQuery

/-!
# Rows that match

Rows that have been fetched are filtered again without the store, with the meaning that a
filter has there: a comparison with null is true of nothing, and only the test for null
itself selects null.
-/

/-- A relation holds of the order of a value and an operand, where they have one. -/
def Relation.holds : Relation → Option Ordering → Bool
  | .eq, order => order == some .eq
  | .ne, order => order != some .eq
  | .lt, order => order == some .lt
  | .le, order => order == some .lt || order == some .eq
  | .gt, order => order == some .gt
  | .ge, order => order == some .gt || order == some .eq

namespace Predicate

/-- The text of a scalar that takes part in pattern matching.  Truth values are digits. -/
def matchedText? : Scalar → Option String
  | .null => none
  | .blob _ => none
  | .text s => some s
  | .integer n => some (integerText n)
  | .real x => some (realText x)
  | .bool b => some (integerText (Scalar.ofBool b))

/-- Whether a value is like a pattern, if both have a text. -/
def likeValue? (value : Value) (pattern : Scalar) : Option Bool :=
  match matchedText? pattern, matchedText? value.toScalar with
  | some pattern, some text => some (Pattern.isLike text pattern)
  | _, _ => none

/-- A value equals an operand. -/
def equals (value : Value) (operand : Scalar) : Bool :=
  value.compareScalar operand == some .eq

/-- A set holds an element; a text holds it if it is a JSON array with such an item. -/
def holdsElement (value : Value) (element : Scalar) : Bool :=
  match value with
  | .integerSet items =>
    match ColumnType.integerElement? (.ofScalar element) with
    | some n => items.contains n
    | none => false
  | .textSet items =>
    match ColumnType.textElement? (.ofScalar element) with
    | some s => items.contains s
    | none => false
  | .text s =>
    match Json.read? s with
    | some (.array items) => items.any fun item => equals (.ofJson item) element
    | _ => false
  | _ => false

/-- A value satisfies a comparison.  Equality with null is the test for null. -/
def satisfies (relation : Relation) (value : Value) (operand : Scalar) : Bool :=
  match relation, operand with
  | .eq, .null => value.isNull
  | .ne, .null => !value.isNull
  | .ne, operand => !value.isNull && Relation.holds .ne (value.compareScalar operand)
  | relation, operand => relation.holds (value.compareScalar operand)

def accepts (predicate : Predicate) (value : Value) : Bool :=
  match predicate with
  | .compare relation operand => satisfies relation value operand
  | .like pattern => likeValue? value pattern == some true
  | .notLike pattern => likeValue? value pattern == some false
  | .oneOf items => !value.isNull && items.any (equals value)
  | .noneOf items => !value.isNull && items.all fun item => !equals value item
  | .contains element => holdsElement value element
  | .lacks element => value.isNull || !holdsElement value element

end Predicate

namespace Row

/-- The value that a row has for a column.  A qualified column is looked up as it is
written, then in the record named by its qualifier, then alone. -/
def valueOf (row : Row) (column : String) : Value :=
  match row.get? column with
  | some value => value
  | none =>
    match Reference.ofText column with
    | ⟨some qualifier, name⟩ =>
      match (row.get? qualifier).bind Value.toRecord? |>.bind (OrderedMap.get? · name) with
      | some value => value
      | none => (row.get? name).getD .null
    | _ => .null

end Row

namespace Filter

def selects (f : Filter) (row : Row) : Bool :=
  f.conditions.all fun condition =>
    let value := row.valueOf condition.column
    condition.predicates.all fun predicate => predicate.accepts value

end Filter
end DocumentQuery
