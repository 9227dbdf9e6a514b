import DocumentQuery.Sql.Membership
import DocumentQuery.Sql.Scope
import DocumentQuery.Filter.Basic
import DocumentQuery.Value.SetElement

namespace DocumentQuery
namespace Sql

/-!
# Filters as conditions

A filter becomes a conjunction with a group of predicates for each of its columns.  Every
operand is bound, so that filters of one shape have one text.  The empty filter is a true
comparison of two bound values.
-/

/-- How the columns of a filter are written, and of which type they are. -/
structure Columns where
  path : String → List String
  type? : String → Option ColumnType

/-- Columns are written as they are named, and no type is known. -/
def Columns.asNamed : Columns where
  path := fun column => (Reference.ofText column).path
  type? := fun _ => none

/-- Columns of the tables of a statement. -/
def Columns.ofScope (scope : Scope) : Columns where
  path := scope.path
  type? := scope.columnType?

/-- Names of results, which are never qualified. -/
def Columns.results : Columns where
  path := fun name => [name]
  type? := fun _ => none

def Operator.ofRelation : Relation → Operator
  | .eq => .eq
  | .ne => .ne
  | .lt => .lt
  | .le => .le
  | .gt => .gt
  | .ge => .ge

/-- Compare a column with a bound operand. -/
def comparison (column : Expr) (operator : Operator) (operand : Scalar) : Binder Expr := do
  let operand ← bound operand
  pure (.binary operator column operand)

def predicate (column : Expr) (type? : Option ColumnType) : Predicate → Binder Expr
  | .compare .eq .null => pure (.isNull column)
  | .compare .ne .null => pure (.isNotNull column)
  | .compare relation operand => comparison column (.ofRelation relation) operand
  | .like pattern => comparison column .like pattern
  | .notLike pattern => comparison column .notLike pattern
  | .oneOf items => do
    let params ← items.mapM bind
    pure (.oneOf column params)
  | .noneOf items => do
    let params ← items.mapM bind
    pure (.noneOf column params)
  | .contains element => do
    let element ← ColumnType.membershipOperand type? element
    let positions ← boundPositions element
    pure (positions.contained column)
  | .lacks element => do
    let element ← ColumnType.membershipOperand type? element
    let positions ← boundPositions element
    pure (.group (.binary .or (.isNull column) (.not (positions.contained column))))

/-- The conjunction of the predicates on a column, after those in `first`. -/
def andPredicates (column : Expr) (type? : Option ColumnType) :
    Expr → List Predicate → Binder Expr
  | first, [] => pure first
  | first, p :: rest => do
    let next ← predicate column type? p
    andPredicates column type? (.binary .and first next) rest

def condition (columns : Columns) (c : Condition) : Binder Expr := do
  require (isColumnReference c.column) (.invalidColumnName c.column)
  let column : Expr := .column (columns.path c.column)
  let type? := columns.type? c.column
  match c.predicates with
  | [] => reject (.noOperator c.column)
  | p :: rest =>
    let first ← predicate column type? p
    let all ← andPredicates column type? first rest
    pure (.group all)

/-- The conjunction of conditions, after those in `first`. -/
def andConditions (columns : Columns) : Expr → List Condition → Binder Expr
  | first, [] => pure first
  | first, c :: rest => do
    let next ← condition columns c
    andConditions columns (.binary .and first next) rest

/-- A filter as a condition. -/
def whereClause (columns : Columns) (f : Filter) : Binder Expr :=
  match f.conditions with
  | [] => do
    let left ← bound (.bool true)
    let right ← bound (.bool true)
    pure (.binary .eq left right)
  | c :: rest => do
    let first ← condition columns c
    andConditions columns first rest

/-- A filter on the columns of one table. -/
def whereIn (table : Table) (f : Filter) : Binder Expr :=
  whereClause (.ofScope (.single table)) f

/-- Build the pieces of a statement, beginning with no bound scalars. -/
def Statement.build (pieces : Binder (List Piece)) : Except QueryError Statement := do
  let (pieces, params) ← pieces.run []
  pure ⟨pieces, params⟩

end Sql
end DocumentQuery
