import DocumentQuery.Value.Basic
import DocumentQuery.Table.Basic
import DocumentQuery.Calendar.Reading
import DocumentQuery.Bytes.Utf8

namespace DocumentQuery

/-!
# Casting

Values come from the store as it keeps them and are cast to the types of their columns.
Null is null in every type.  A value that does not convert is kept as it is, so that a
row never loses anything by being read.
-/

namespace ColumnType

/-- The text of an item of a stored set of texts; null is none. -/
def setItemText? : Json → Option String
  | .string s => some s
  | .null => none
  | json => some json.compact

/-- The set that the text of a JSON array stands for. -/
def readSet? (type : ColumnType) (text : String) : Option Value :=
  match Json.read? text with
  | some (.array items) =>
    match type with
    | .integerSet => (items.mapM Json.integer?).map .integerSet
    | _ => (items.mapM setItemText?).map .textSet
  | _ => none

/-- The truth value that a value converts to: zero and empty ones are false. -/
def toBoolean? : Value → Option Bool
  | .bool b => some b
  | .integer n => some (n != 0)
  | .real x => some (!(x == 0.0))
  | .text s => some (!s.isEmpty)
  | .blob bytes => some (!bytes.isEmpty)
  | _ => none

def toInteger? : Value → Option Int64
  | .integer n => some n
  | .real x => some (Decimal.toInt64 x)
  | .bool b => some (Scalar.ofBool b)
  | .text s => Decimal.readInt64 (Text.trim s.toList)
  | _ => none

def toReal? : Value → Option Float
  | .real x => some x
  | .integer n => some (Decimal.ofInt64 n)
  | .text s => Decimal.readReal (Text.trim s.toList)
  | _ => none

def toText? (value : Value) : Option String :=
  match value with
  | .blob bytes => some (Bytes.decode bytes)
  | _ =>
    match value.toScalar with
    | .text s => some s
    | .integer n => some (integerText n)
    | .real x => some (realText x)
    | .bool b => some (boolText b)
    | _ => none

def toMoment? : Value → Option Calendar.Moment
  | .moment m => some m
  | .text s => Calendar.readMoment? s.toList
  | .integer n => Calendar.Moment.ofMilliseconds? n.toInt
  | _ => none

def toDate? : Value → Option Calendar.Date
  | .date d => some d
  | .text s => Calendar.readDate? s.toList
  | .integer n => (Calendar.Moment.ofMilliseconds? n.toInt).map Calendar.Moment.date
  | _ => none

def toTime? : Value → Option Calendar.TimeOfDay
  | .time t => some t
  | .text s => Calendar.readTime? s.toList
  | .integer n => (Calendar.Moment.ofMilliseconds? n.toInt).map Calendar.Moment.time
  | _ => none

def toBytes? : Value → Option (List UInt8)
  | .blob bytes => some bytes
  | .text s => some (Bytes.utf8 s)
  | _ => none

/-- The value of this type that a value other than null converts to. -/
def convert? (type : ColumnType) (value : Value) : Option Value :=
  match type with
  | .text => (toText? value).map .text
  | .integer => (toInteger? value).map .integer
  | .real => (toReal? value).map .real
  | .boolean => (toBoolean? value).map .bool
  | .date => (toDate? value).map .date
  | .time => (toTime? value).map .time
  | .moment => (toMoment? value).map .moment
  | .blob => (toBytes? value).map .blob
  | .integerSet =>
    match value with
    | .text s => readSet? .integerSet s
    | .integerSet items => some (.integerSet items)
    | _ => none
  | .textSet =>
    match value with
    | .text s => readSet? .textSet s
    | .textSet items => some (.textSet items)
    | _ => none
  | .other _ => some value

/-- The value cast to this type, or the value itself where it does not convert. -/
def cast (type : ColumnType) (value : Value) : Except Value Value :=
  if value.isNull then .ok .null
  else
    match type.convert? value with
    | some converted => .ok converted
    | none => .error value

/-- The value cast to this type as far as it converts. -/
def castOrKeep (type : ColumnType) (value : Value) : Value :=
  match type.cast value with
  | .ok converted => converted
  | .error kept => kept

end ColumnType

namespace Row

/-- Cast the value of one column to its type in a table. -/
def castColumn (table : Table) (row : Row) (name : String) : Row :=
  match table.columnType? name with
  | some type => row.modify name type.castOrKeep
  | none => row

/-- Cast the values of some columns to their types in a table. -/
def castColumns (table : Table) (names : List String) (row : Row) : Row :=
  names.foldl (castColumn table) row

/-- Cast the values of the adaptable columns; all others stay as they are. -/
def cast (table : Table) (row : Row) : Row :=
  castColumns table table.adaptableColumns row

/-- Cast the values of those of the columns that are adaptable. -/
def castSelected (table : Table) (names : List String) (row : Row) : Row :=
  castColumns table (names.filter table.isAdaptable) row

end Row
end DocumentQuery
