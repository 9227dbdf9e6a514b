import DocumentQuery.Sql.Where

namespace DocumentQuery
namespace Sql

/-!
# Deletes and counts
-/

/-- The statement that deletes the rows of a table that a filter selects. -/
def delete (table : Table) (f : Filter) : Except QueryError Statement :=
  Statement.build do
    let condition ← whereIn table f
    pure (.word "DELETE FROM " :: .name table.storeName :: .word " WHERE " :: condition.pieces)

def truncate (table : Table) : Statement :=
  ⟨[.word "DELETE FROM ", .name table.storeName], []⟩

/-- The statement that counts the rows of a table that a filter selects. -/
def count (table : Table) (f : Filter) : Except QueryError Statement :=
  Statement.build do
    let condition ← whereIn table f
    pure (.word "SELECT count(*) AS " :: .name "count" :: .word " FROM " ::
      .name table.storeName :: .word " WHERE " :: condition.pieces)

end Sql
end DocumentQuery
