import DocumentQuery.Value.Cast
import DocumentQuery.Sql.Select

namespace DocumentQuery

/-!
# Rows of results

The rows that the store returns for a query are cast to the types of their columns and
brought into shape.  A joined row arrives flat, its target columns under prefixed names;
with one target row for each source row those columns become a record under the name of
the target, and otherwise they take their own names wherever the source has no such column.
-/

namespace Row

/-- The columns of a joined row that belong to the target, under their own names there, and
all others. -/
def splitJoined (target : Table) (row : Row) : Row × Row :=
  row.entries.foldl
    (fun (source, inTarget) (name, value) =>
      match targetColumn? name with
      | some column => (source, inTarget.insert column value)
      | none => (source.insert name value, inTarget))
    (.empty, .empty)
where
  /-- The column of the target that a name of a joined row stands for. -/
  targetColumn? (name : String) : Option String :=
    let before := (target.name ++ ".").toList
    if before.isPrefixOf name.toList then
      let column := String.ofList (name.toList.drop before.length)
      if target.hasColumn column then some column else none
    else none

/-- Add the columns of the target to those of the source, one by one.  A name that the row
already has gets the name of the target before it. -/
def flatten (target : Table) (source inTarget : Row) : Row :=
  inTarget.entries.foldl
    (fun row (column, value) =>
      if row.contains column then row.insert (Sql.targetAlias target column) value
      else row.insert column value)
    source

/-- A joined row, cast and in the shape of its join.  Where both join columns have the same
name only that of the source is kept, as both have the same value. -/
def adaptJoined (source target : Table) (shape : JoinShape) (sourceColumn targetColumn : String)
    (row : Row) : Row :=
  let (inSource, inTarget) := splitJoined target row
  let inSource := Row.cast source inSource
  let inTarget := Row.cast target inTarget
  let inTarget := if sourceColumn = targetColumn then inTarget.erase targetColumn else inTarget
  match shape with
  | .oneToOne => inSource.insert target.name (.record inTarget)
  | .flat => flatten target inSource inTarget
  | .oneToMany => flatten target inSource inTarget

/-- A row of groups, in which the columns grouped by are cast. -/
def adaptGrouped (scope : Sql.Scope) (g : Grouping) (row : Row) : Row :=
  (g.columns.filterMap scope.owner?).foldl
    (fun row (table, column) => Row.castSelected table [column] row) row

end Row

namespace Query

/-- The rows that the store returned for a query, in the shape that the caller sees. -/
def adaptRows (q : Query) (source : Table) (target? : Option Table) (rows : List Row) :
    Except QueryError (List Row) := do
  let join? ← q.join?
  match q.grouping? with
  | some g => pure (rows.map (Row.adaptGrouped ⟨source, target?⟩ g))
  | none =>
    match join?, target? with
    | some join, some target =>
      pure (rows.map (Row.adaptJoined source target join.shape join.sourceColumn
        join.targetColumn))
    | _, _ => pure (rows.map (Row.cast source))

end Query
end DocumentQuery
