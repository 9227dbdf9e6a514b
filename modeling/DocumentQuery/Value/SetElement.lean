import DocumentQuery.Error
import DocumentQuery.Value.Basic
import DocumentQuery.Decimal.Reading
import DocumentQuery.Text.Blank

namespace DocumentQuery

/-!
# Elements of set columns

Sets are stored as compact JSON arrays of integers or of texts.  What is written into a set
column, and what is looked for in one, is first brought to the type of its elements, so
that equal elements always have equal texts.
-/

namespace ColumnType

/-- A value as an element of a set of integers: integers, truth values, reals without a
fractional part, and numerals. -/
def integerElement? : Value → Option Int64
  | .integer n => some n
  | .bool b => some (Scalar.ofBool b)
  | .real x => if Decimal.isIntegral x then some (Decimal.toInt64 x) else none
  | .text s => Decimal.readInt64 (Text.trim s.toList)
  | _ => none

/-- A value as an element of a set of texts: texts, and the texts of numbers and truth
values. -/
def textElement? : Value → Option String
  | .text s => some s
  | .integer n => some (integerText n)
  | .real x => some (realText x)
  | .bool b => some (boolText b)
  | _ => none

def element? (type : ColumnType) (value : Value) : Option Value :=
  match type with
  | .integerSet => (integerElement? value).map .integer
  | .textSet => (textElement? value).map .text
  | _ => none

/-- A value as an element of a set column of this type, or the refusal of it. -/
def element (type : ColumnType) (value : Value) : Except QueryError Value :=
  orReject (type.element? value) (.invalidElement value.toJson type)

/-- What is looked for in a column: an element of its type if it is a set column, and the
scalar itself otherwise. -/
def membershipOperand (type? : Option ColumnType) (operand : Scalar) :
    Except QueryError Scalar :=
  match type? with
  | some type =>
    if type.isSet then (type.element (.ofScalar operand)).map Value.toScalar else .ok operand
  | none => .ok operand

/-- The elements that a value other than null gives to a set column: the items of a set, or
the value alone. -/
def elementsOf : Value → List Value
  | .integerSet items => items.map .integer
  | .textSet items => items.map .text
  | value => [value]

def setOf (type : ColumnType) (elements : List Value) : Value :=
  match type with
  | .integerSet => .integerSet (elements.filterMap Value.toInt64?)
  | _ => .textSet (elements.filterMap Value.toText?)

/-- The scalar that is stored in a column of this type for a value.  A set column receives
the compact text of an array, also for a single element, or null. -/
def stored (type : ColumnType) (value : Value) : Except QueryError Scalar :=
  if !type.isSet then .ok value.toScalar
  else if value.isNull then .ok .null
  else do
    let elements ← (elementsOf value).mapM type.element
    pure (type.setOf elements).toScalar

/-- The scalar for a value in a column of this type, without bringing elements to its
type: in a set column a single value becomes an array. -/
def scalarFor (type : ColumnType) (value : Value) : Scalar :=
  if !type.isSet then value.toScalar
  else
    match value with
    | .null => .null
    | .integerSet _ => value.toScalar
    | .textSet _ => value.toScalar
    | single => .text (Json.array [single.toJson]).compact

end ColumnType
end DocumentQuery
