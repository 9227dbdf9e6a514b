import DocumentQuery.Sql.Where
import DocumentQuery.Query.Basic

namespace DocumentQuery
namespace Sql

/-!
# Selects

A query is one statement, whether it is simple or joined, plain or grouped.  In a joined
result the columns of the source have their own names and those of the target the name of
the target before theirs.
-/

/-- The name of a column of a join target in the rows of a joined result. -/
def targetAlias (target : Table) (column : String) : String :=
  target.name ++ "." ++ column

/-- A reference that may stand in an order or a grouping. -/
def checkReference (column : String) : Except QueryError Unit :=
  require (isColumnReference column) (.invalidColumnName column)

def orderPart (path : String → List String) (column : String) (direction : Direction) :
    Except QueryError (List Piece) := do
  checkReference column
  pure (pathPieces (path column) ++ [.word (" " ++ direction.word)])

def orderClause (path : String → List String) (order : List (String × Direction)) :
    Except QueryError (List Piece) :=
  if order.isEmpty then .ok []
  else do
    let parts ← order.mapM fun (column, direction) => orderPart path column direction
    pure (.word " ORDER BY " :: separated ", " parts)

/-- The limit of a query.  Without a bound the count is -1. -/
def limitClause : Option Limit → List Piece
  | none => []
  | some ⟨count?, start⟩ =>
    let count := match count? with
      | some count => String.ofList (Decimal.natural count.toNat)
      | none => "-1"
    [.word (" LIMIT " ++ count ++ " OFFSET " ++ String.ofList (Decimal.natural start.toNat))]

/-- The tables of a query.  Both tables of a join must have their join columns. -/
def fromClause (source : Table) : Option (Join × Table) → Except QueryError (List Piece)
  | none => .ok [.name source.storeName]
  | some (join, target) => do
    require (source.hasColumn join.sourceColumn)
      (.noJoinColumn source.storeName join.sourceColumn)
    require (target.hasColumn join.targetColumn)
      (.noJoinColumn target.storeName join.targetColumn)
    pure (.name source.storeName :: .word " INNER JOIN " :: .name target.storeName ::
      .word " ON " :: pathPieces [source.storeName, join.sourceColumn] ++
      .word " = " :: pathPieces [target.storeName, join.targetColumn])

/-- A column of a result under a name. -/
def columnAs (path : List String) (name : String) : List Piece :=
  pathPieces path ++ [.word " AS ", .name name]

/-- The columns of a joined result: those of the source, then those of the target. -/
def joinedColumns (source target : Table) : List (List Piece) :=
  (source.columnNames.map fun name => columnAs [source.storeName, name] name) ++
    target.columnNames.map fun name =>
      columnAs [target.storeName, name] (targetAlias target name)

/-- A column to group by: how it is written, and how it is selected. -/
def groupColumn (scope : Scope) (column : String) :
    Except QueryError (List Piece × List Piece) := do
  checkReference column
  let (_, name) ← scope.owner column
  let path := scope.path column
  let selected := if scope.target?.isSome then columnAs path name else pathPieces path
  pure (pathPieces path, selected)

/-- The argument of an aggregate function.  Only counting takes whole rows. -/
def aggregateArgument (scope : Scope) (a : Aggregation) : Except QueryError (List Piece) :=
  if a.column = "*" then do
    require (a.function = .count) (.starNotSupported a.function.name)
    pure [.word "*"]
  else do
    checkReference a.column
    let _ ← scope.owner a.column
    pure (pathPieces (scope.path a.column))

/-- The result of an aggregation under its name. -/
def aggregateColumn (scope : Scope) (a : Aggregation) : Except QueryError (List Piece) := do
  require (Name.isIdentifier a.name) (.invalidAlias a.name)
  let argument ← aggregateArgument scope a
  pure (.word (a.function.name ++ "(") :: argument ++ [.word ") AS ", .name a.name])

/-- The columns of a grouped result, and the columns to group by. -/
def groupParts (scope : Scope) (g : Grouping) :
    Except QueryError (List (List Piece) × List (List Piece)) := do
  require (!(g.columns.isEmpty && g.aggregations.isEmpty)) .emptyGroup
  let columns ← g.columns.mapM (groupColumn scope)
  let results ← g.aggregations.mapM (aggregateColumn scope)
  pure (columns.map Prod.snd ++ results, columns.map Prod.fst)

/-- The condition on groups, if there is any. -/
def havingClause (f : Filter) : Binder (List Piece) :=
  if f.isEmpty then pure []
  else do
    let condition ← whereClause .results f
    pure (.word " HAVING " :: condition.pieces)

/-- How a column of an order of groups is written: the names of results come first. -/
def groupedPath (scope : Scope) (g : Grouping) (column : String) : List String :=
  if g.aggregations.any fun a => a.name == column then [column] else scope.path column

def plainSelect (q : Query) (scope : Scope) (tables : List Piece) : Binder (List Piece) := do
  let columns := match scope.target? with
    | some target => separated ", " (joinedColumns scope.source target)
    | none => [.word "*"]
  let condition ← whereClause (.ofScope scope) q.filter
  let order ← orderClause scope.path q.order
  pure (.word "SELECT " :: columns ++ .word " FROM " :: tables ++
    .word " WHERE " :: condition.pieces ++ order ++ limitClause q.limit?)

def groupedSelect (q : Query) (g : Grouping) (scope : Scope) (tables : List Piece) :
    Binder (List Piece) := do
  let (selected, groupColumns) ← groupParts scope g
  let condition ← whereClause (.ofScope scope) q.filter
  let groups :=
    if groupColumns.isEmpty then [] else .word " GROUP BY " :: separated ", " groupColumns
  let having ← havingClause g.havingFilter
  let order ← orderClause (groupedPath scope g) q.order
  pure (.word "SELECT " :: separated ", " selected ++ .word " FROM " :: tables ++
    .word " WHERE " :: condition.pieces ++ groups ++ having ++ order ++ limitClause q.limit?)

/-- The join of a query with its target, which must be known. -/
def joinWith (q : Query) (target? : Option Table) : Except QueryError (Option (Join × Table)) := do
  match ← q.join?, target? with
  | some join, some target => pure (some (join, target))
  | some _, none => reject .unresolvedTarget
  | none, _ => pure none

/-- The statement of a query on a table.  If the query has a join, its target is the other
table. -/
def select (q : Query) (source : Table) (target? : Option Table) :
    Except QueryError Statement := do
  let join? ← joinWith q target?
  let scope : Scope := ⟨source, join?.map Prod.snd⟩
  let tables ← fromClause source join?
  Statement.build (match q.grouping? with
    | none => plainSelect q scope tables
    | some g => groupedSelect q g scope tables)

end Sql
end DocumentQuery
