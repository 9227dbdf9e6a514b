import DocumentQuery.Sql.Where
import DocumentQuery.Change

namespace DocumentQuery
namespace Sql

/-!
# Updates

Every change becomes an assignment.  Numbers are changed by arithmetic, texts by
appending, and sets by editing their stored text, so that no row has to be read before it
is changed.
-/

/-- The number that a column is changed by. -/
def numericOperand (column : String) (value : Value) : Except QueryError Scalar :=
  match value with
  | .integer n => .ok (.integer n)
  | .real x => .ok (.real x)
  | value => reject (.numberExpected column value.toJson)

/-- A column combined with the number that it is changed by. -/
def arithmetic (column : String) (operator : Operator) (value : Value) : Binder Expr := do
  let operand ← numericOperand column value
  let operand ← bound operand
  pure (.binary operator (.column (Reference.ofText column).path) operand)

/-- The new value of a column of a type. -/
def changedValue (column : String) (type : ColumnType) (change : Change) : Binder Expr := do
  let current : Expr := .column (Reference.ofText column).path
  match change with
  | .set value =>
    let stored ← type.stored value
    bound stored
  | .increase value =>
    if type.isNumeric then arithmetic column .plus value else unsupported
  | .decrease value =>
    if type.isNumeric then arithmetic column .minus value else unsupported
  | .multiply value =>
    if type.isNumeric then
      let product ← arithmetic column .times value
      pure (.cast product type.declaration)
    else unsupported
  | .add value =>
    if type.isNumeric then arithmetic column .plus value
    else if type.isSet then
      let element ← type.element value
      let positions ← boundPositions element.toScalar
      pure (positions.inserted current)
    else if type = .text then
      let appended ← bound value.toScalar
      pure (.binary .concat current appended)
    else unsupported
  | .remove value =>
    if type.isSet then
      let element ← type.element value
      let positions ← boundPositions element.toScalar
      pure (positions.removed current)
    else unsupported
where
  /-- The operator does not apply to columns of the type. -/
  unsupported : Binder Expr := reject (.unsupportedOperator change.operator type column)

def assignment (column : String) (type : ColumnType) (change : Change) : Binder (List Piece) := do
  let value ← changedValue column type change
  pure (pathPieces (Reference.ofText column).path ++ .word " = " :: value.pieces)

def assignmentIn (table : Table) (column : String) (change : Change) : Binder (List Piece) := do
  require (Name.isIdentifier column) (.invalidColumnName column)
  let type ← orReject (table.columnType? column) (.noColumn table.storeName column)
  assignment column type change

/-- The statement that changes the rows of a table that a filter selects. -/
def update (table : Table) (changes : Changes) (f : Filter) : Except QueryError Statement := do
  require (!changes.entries.isEmpty) .nothingToUpdate
  Statement.build do
    let assignments ← changes.entries.mapM fun (column, change) =>
      assignmentIn table column change
    let condition ← whereIn table f
    pure (.word "UPDATE " :: .name table.storeName :: .word " SET " ::
      separated ", " assignments ++ .word " WHERE " :: condition.pieces)

end Sql
end DocumentQuery
