import DocumentQuery.Sql.Expr
import DocumentQuery.Table.Basic
import DocumentQuery.Value.SetElement

namespace DocumentQuery
namespace Sql

/-!
# Inserts

A row is inserted with one bound scalar for each of its columns.  A row without columns
inserts the defaults.
-/

/-- The name of a column of a row and the placeholder of its value. -/
def insertedColumn (table : Table) (name : String) (value : Value) : Binder (String × Nat) := do
  let type ← orReject (table.columnType? name) (.noColumn table.storeName name)
  let stored ← type.stored value
  let number ← bind stored
  pure (name, number)

def insert (table : Table) (row : Row) : Except QueryError Statement :=
  if row.isEmpty then
    .ok ⟨[.word "INSERT INTO ", .name table.storeName, .word " DEFAULT VALUES"], []⟩
  else do
    let (columns, params) ← (row.entries.mapM fun (name, value) =>
      insertedColumn table name value).run []
    let names := columns.map fun column => [Piece.name column.1]
    pure ⟨.word "INSERT INTO " :: .name table.storeName :: .word "(" :: separated ", " names ++
      .word ") VALUES(" :: paramPieces (columns.map Prod.snd) ++ [.word ")"], params⟩

end Sql
end DocumentQuery
