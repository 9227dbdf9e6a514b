import DocumentQuery.Table.Column
import DocumentQuery.Table.Name

namespace DocumentQuery

/-!
# Tables and schemas

A table definition has the names of the table and its schema, in small letters, and the
columns in order.  Of two columns with one name the first one counts.
-/

structure Schema where
  database : String
  name : String
deriving Repr, DecidableEq, Inhabited

namespace Schema

/-- The schema with a name in any letter case. -/
def named (database name : String) : Schema :=
  ⟨database, Text.lowercase name⟩

/-- The tables of this schema have plain names in the store. -/
def isDefault (s : Schema) : Bool :=
  s.name == Name.defaultSchema

def toJson (s : Schema) : Json :=
  .ofMembers [("database", .string s.database), ("name", .string s.name)]

end Schema

/-- The definition of a table. -/
structure Table where
  schema : String
  name : String
  columns : List Column
deriving Repr, DecidableEq, Inhabited

namespace Table

/-- The table with names in any letter case. -/
def named (schema name : String) (columns : List Column) : Table :=
  ⟨Text.lowercase schema, Text.lowercase name, columns⟩

/-- The name under which the store keeps the table. -/
def storeName (t : Table) : String :=
  Name.qualified t.schema t.name

def column? (t : Table) (name : String) : Option Column :=
  t.columns.find? fun column => column.name == name

def columnType? (t : Table) (name : String) : Option ColumnType :=
  (t.column? name).map Column.type

/-- The table has a column with this name. -/
def hasColumn (t : Table) (name : String) : Bool :=
  (t.column? name).isSome

/-- The table has a column with each of these names. -/
def hasColumns (t : Table) (names : List String) : Bool :=
  names.all t.hasColumn

def columnNames (t : Table) : List String :=
  t.columns.map Column.name

/-- The names of the columns that hold sets. -/
def setColumns (t : Table) : List String :=
  (t.columns.filter fun column => column.type.isSet).map Column.name

/-- The names of the columns that are converted when rows are read. -/
def adaptableColumns (t : Table) : List String :=
  (t.columns.filter fun column => column.type.isAdaptable).map Column.name

/-- A column with this name is converted when rows are read. -/
def isAdaptable (t : Table) (name : String) : Bool :=
  t.adaptableColumns.contains name

def toJson (t : Table) : Json :=
  .ofMembers [("schema", .string t.schema), ("name", .string t.name),
    ("columns", .array (t.columns.map Column.toJson))]

end Table
end DocumentQuery
