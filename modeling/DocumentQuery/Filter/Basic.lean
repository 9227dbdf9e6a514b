import DocumentQuery.Error
import DocumentQuery.Value.Scalar
import DocumentQuery.Table.Name

namespace DocumentQuery

/-!
# Filters

A filter is a conjunction of conditions on columns, each with all predicates on its column.
A filter without conditions selects every row.  Filters are read from documents such as
`{"age": {"$gt": 21}, "name": "ann"}`.
-/

inductive Relation where
  | eq
  | ne
  | lt
  | le
  | gt
  | ge
deriving Repr, DecidableEq

inductive Predicate where
  | compare (relation : Relation) (operand : Scalar)
  | like (pattern : Scalar)
  | notLike (pattern : Scalar)
  | oneOf (items : List Scalar)
  | noneOf (items : List Scalar)
  | contains (element : Scalar)
  | lacks (element : Scalar)
deriving Repr, BEq

/-- The predicates on one column. -/
structure Condition where
  column : String
  predicates : List Predicate
deriving Repr, BEq

/-- A conjunction of conditions. -/
structure Filter where
  conditions : List Condition := []
deriving Repr, BEq, Inhabited

/-- Add a predicate to the condition on a column, or a condition at the end. -/
def Condition.add (column : String) (predicate : Predicate) : List Condition → List Condition
  | [] => [⟨column, [predicate]⟩]
  | condition :: rest =>
    if condition.column = column then
      { condition with predicates := condition.predicates ++ [predicate] } :: rest
    else condition :: Condition.add column predicate rest

namespace Filter

def all : Filter :=
  ⟨[]⟩

def isEmpty (f : Filter) : Bool :=
  f.conditions.isEmpty

/-- Require one more predicate of a column. -/
def push (f : Filter) (column : String) (predicate : Predicate) : Filter :=
  ⟨Condition.add column predicate f.conditions⟩

end Filter

/-! ## Reading documents -/

/-- The operators that compare a value with a scalar, by their names. -/
def Relation.ofOperator? (operator : String) : Option Relation :=
  if operator = "$eq" then some .eq
  else if operator = "$ne" then some .ne
  else if operator = "$lt" then some .lt
  else if operator = "$le" then some .le
  else if operator = "$gt" then some .gt
  else if operator = "$ge" then some .ge
  else none

namespace Predicate

def scalarOperand (operator : String) (json : Json) : Except QueryError Scalar :=
  orReject (Scalar.ofJson? json) (.scalarExpected operator)

def listOperand (operator : String) : Json → Except QueryError (List Scalar)
  | .array items => items.mapM (scalarOperand operator)
  | _ => reject (.arrayExpected operator)

def ofJson (operator : String) (json : Json) : Except QueryError Predicate :=
  match Relation.ofOperator? operator with
  | some relation => (scalarOperand operator json).map (.compare relation)
  | none =>
    if operator = "$like" then (scalarOperand operator json).map .like
    else if operator = "$notLike" || operator = "$nlike" then
      (scalarOperand operator json).map .notLike
    else if operator = "$in" then (listOperand operator json).map .oneOf
    else if operator = "$notIn" || operator = "$nin" then
      (listOperand operator json).map .noneOf
    else if operator = "$contains" || operator = "$contain" then
      (scalarOperand operator json).map .contains
    else if operator = "$notContains" || operator = "$notContain" || operator = "$ncontains" then
      (scalarOperand operator json).map .lacks
    else .error (.unknownOperator operator)

end Predicate

namespace Filter

/-- Add the predicates of the operators on one column. -/
def pushOperators (column : String) : Filter → List (String × Json) → Except QueryError Filter
  | f, [] => .ok f
  | f, (operator, operand) :: rest => do
    let predicate ← Predicate.ofJson operator operand
    pushOperators column (f.push column predicate) rest

/-- Add what a document says about one column: a value that the column equals, or an object
with at least one operator. -/
def pushMember (f : Filter) (column : String) (json : Json) : Except QueryError Filter := do
  require (isColumnReference column) (.invalidColumnName column)
  match json with
  | .object operators =>
    require (!operators.isEmpty) (.noOperator column)
    pushOperators column f operators.entries
  | literal =>
    let predicate ← Predicate.ofJson "$eq" literal
    pure (f.push column predicate)

/-- Add what a document says about its columns, in order. -/
def pushMembers : Filter → List (String × Json) → Except QueryError Filter
  | f, [] => .ok f
  | f, (column, json) :: rest => do
    let f ← f.pushMember column json
    pushMembers f rest

/-- The filter of a document.  Null is the filter that selects every row. -/
def ofJson : Json → Except QueryError Filter
  | .null => .ok all
  | .object members => pushMembers all members.entries
  | _ => reject .filterNotObject

end Filter
end DocumentQuery
