import DocumentQuery.Json.Fields
import DocumentQuery.Text.Blank
import DocumentQuery.Text.LetterCase

namespace DocumentQuery

/-!
# Columns

The type of a column is known from the type name in its declaration.  The store has only
numbers, texts and bytes; a column of any other type is *adaptable*: its values are
converted when rows are read.
-/

/-- The logical type of a column.  A declared type without a meaning here is kept. -/
inductive ColumnType where
  | text
  | integer
  | real
  | boolean
  | date
  | time
  | moment
  | blob
  | integerSet
  | textSet
  | other (name : String)
deriving Repr, DecidableEq, Inhabited

namespace ColumnType

/-- The type that a declaration names, in any letter case. -/
def ofDeclaration (declared : String) : ColumnType :=
  let name := String.ofList (Text.trim declared.toList)
  let small := Text.lowercase name
  if small = "text" then .text
  else if small = "integer" || small = "sequence" then .integer
  else if small = "real" then .real
  else if small = "boolean" || small = "bool" then .boolean
  else if small = "date" then .date
  else if small = "time" then .time
  else if small = "datetime" then .moment
  else if small = "blob" then .blob
  else if small = "setofinteger" || small = "set<integer>" then .integerSet
  else if small = "setoftext" || small = "set<text>" then .textSet
  else .other name

/-- The name under which a type is declared in the store. -/
def declaration : ColumnType → String
  | .text => "text"
  | .integer => "integer"
  | .real => "real"
  | .boolean => "boolean"
  | .date => "date"
  | .time => "time"
  | .moment => "datetime"
  | .blob => "blob"
  | .integerSet => "setofinteger"
  | .textSet => "setoftext"
  | .other name => name

def display : ColumnType → String
  | .integerSet => "set<integer>"
  | .textSet => "set<text>"
  | type => type.declaration

def isSet : ColumnType → Bool
  | .integerSet => true
  | .textSet => true
  | _ => false

/-- The store has no such values, so that they are converted when they are read. -/
def isAdaptable : ColumnType → Bool
  | .boolean => true
  | .date => true
  | .time => true
  | .moment => true
  | .blob => true
  | type => type.isSet

def isNumeric : ColumnType → Bool
  | .integer => true
  | .real => true
  | _ => false

/-- The types without a name of their own, with the words for them in JSON. -/
def words : List (String × ColumnType) :=
  [("Text", .text), ("Integer", .integer), ("Real", .real), ("Boolean", .boolean),
   ("Date", .date), ("Time", .time), ("DateTime", .moment), ("Blob", .blob),
   ("IntegerSet", .integerSet), ("TextSet", .textSet)]

/-- The word for a type in JSON. -/
def word : ColumnType → String
  | .text => "Text"
  | .integer => "Integer"
  | .real => "Real"
  | .boolean => "Boolean"
  | .date => "Date"
  | .time => "Time"
  | .moment => "DateTime"
  | .blob => "Blob"
  | .integerSet => "IntegerSet"
  | .textSet => "TextSet"
  | .other name => name

def toJson : ColumnType → Json
  | .other name => .ofMembers [("Other", .string name)]
  | type => .string type.word

def ofTree? : Json.Tree → Option ColumnType
  | .members [(some "Other", tree)] => tree.text?.map .other
  | tree => tree.alternative?.bind fun word => words.lookup word

end ColumnType

/-- A column of a table. -/
structure Column where
  name : String
  type : ColumnType
  required : Bool := false
  primaryKey : Bool := false
  unique : Bool := false
deriving Repr, DecidableEq, Inhabited

/-- A column as the store describes it. -/
structure StoredColumn where
  name : String
  declared : String
  notNull : Bool
  primaryKey : Bool
deriving Repr, DecidableEq, Inhabited

namespace Column

/-- The column must have a value. -/
def asRequired (c : Column) : Column :=
  { c with required := true }

/-- No two rows may have the same value in the column. -/
def asUnique (c : Column) : Column :=
  { c with unique := true }

/-- The column identifies the rows, and so is required and unique. -/
def asPrimaryKey (c : Column) : Column :=
  { c with primaryKey := true, required := true, unique := true }

/-- The column that the store describes. -/
def ofStored (s : StoredColumn) : Column :=
  let column : Column := { name := s.name, type := .ofDeclaration s.declared }
  let column := if s.notNull then column.asRequired else column
  if s.primaryKey then column.asPrimaryKey else column

def toJson (c : Column) : Json :=
  .ofMembers [("name", .string c.name), ("column_type", c.type.toJson),
    ("required", .bool c.required), ("primary_key", .bool c.primaryKey),
    ("unique", .bool c.unique)]

def ofTree? (tree : Json.Tree) : Option Column := do
  let fields ← tree.fields? ["name", "column_type", "required", "primary_key", "unique"]
  let name ← fields.required "name" Json.Tree.text?
  let type ← fields.required "column_type" ColumnType.ofTree?
  let required ← fields.required "required" Json.Tree.bool?
  let primaryKey ← fields.required "primary_key" Json.Tree.bool?
  let unique ← fields.required "unique" Json.Tree.bool?
  pure { name, type, required, primaryKey, unique }

end Column

namespace StoredColumn

def toJson (s : StoredColumn) : Json :=
  .ofMembers [("name", .string s.name), ("declared_type", .string s.declared),
    ("not_null", .bool s.notNull), ("primary_key", .bool s.primaryKey)]

def ofTree? (tree : Json.Tree) : Option StoredColumn := do
  let fields ← tree.fields? ["name", "declared_type", "not_null", "primary_key"]
  let name ← fields.required "name" Json.Tree.text?
  let declared ← fields.required "declared_type" Json.Tree.text?
  let notNull ← fields.required "not_null" Json.Tree.bool?
  let primaryKey ← fields.required "primary_key" Json.Tree.bool?
  pure { name, declared, notNull, primaryKey }

end StoredColumn
end DocumentQuery
