import DocumentQuery.Sql.Expr
import DocumentQuery.Table.Basic

namespace DocumentQuery
namespace Sql

/-!
# Scopes

The columns of a statement belong to one table or, in a join, to a source and a target.  A
reference is owned by the first table that has its column and, if the reference is
qualified, its name.
-/

structure Scope where
  source : Table
  target? : Option Table
deriving Repr, BEq

namespace Scope

/-- The scope of a statement on one table. -/
def single (table : Table) : Scope :=
  ⟨table, none⟩

/-- The tables in the order in which they are searched. -/
def tables (s : Scope) : List Table :=
  s.source :: s.target?.toList

/-- The table that owns a reference, and the name of the column there. -/
def owner? (s : Scope) (column : String) : Option (Table × String) :=
  match Reference.ofText column with
  | ⟨some qualifier, name⟩ =>
    (s.tables.find? fun table =>
      table.name == Text.lowercase qualifier && table.hasColumn name).map fun table =>
        (table, name)
  | _ => (s.tables.find? fun table => table.hasColumn column).map fun table => (table, column)

/-- The table that owns a reference, which must exist. -/
def owner (s : Scope) (column : String) : Except QueryError (Table × String) :=
  orReject (s.owner? column) (.unknownColumn column)

/-- A reference as it is written in a statement.  In a join every column is written with
the name of its table in the store, and a qualified reference always is. -/
def path (s : Scope) (column : String) : List String :=
  let reference := Reference.ofText column
  match s.owner? column with
  | some (table, name) =>
    if s.target?.isSome || reference.qualifier.isSome then [table.storeName, name]
    else reference.path
  | none => reference.path

/-- The type of the column that a reference stands for. -/
def columnType? (s : Scope) (column : String) : Option ColumnType :=
  (s.owner? column).bind fun (table, name) => table.columnType? name

end Scope
end Sql
end DocumentQuery
