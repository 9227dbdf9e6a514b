import DocumentQuery.Proofs.Sql.Binding
import DocumentQuery.Sql.Insert
import DocumentQuery.Sql.Update

namespace DocumentQuery

open Sql

/-!
# The operands of filters, changes and rows

For each part of a statement that may bind scalars, three functions say what it does: its
operands, their number, and what it writes after a given number of bound scalars.  Only the
first one looks at literals.  The other two see the operators, the names, the lengths of
lists and whether an operand of equality is null.
-/

/-! ## Predicates -/

namespace Predicate

/-- The element that is looked for, as the column stores its elements. -/
def soughtOperand (type? : Option ColumnType) (element : Scalar) :
    Except QueryError (List Scalar) := do
  let sought ← ColumnType.membershipOperand type? element
  pure [sought]

/-- The operands of a predicate.  The test for null has none, and a list has each of its
items. -/
def operands (type? : Option ColumnType) : Predicate → Except QueryError (List Scalar)
  | .compare .eq .null => .ok []
  | .compare .ne .null => .ok []
  | .compare _ operand => .ok [operand]
  | .like pattern => .ok [pattern]
  | .notLike pattern => .ok [pattern]
  | .oneOf items => .ok items
  | .noneOf items => .ok items
  | .contains element => soughtOperand type? element
  | .lacks element => soughtOperand type? element

def arity : Predicate → Nat
  | .compare .eq .null => 0
  | .compare .ne .null => 0
  | .oneOf items => items.length
  | .noneOf items => items.length
  | _ => 1

/-- The marks of the element that is bound to a placeholder. -/
def boundElement (number : Nat) : Positions :=
  .of (.jsonQuote (.param number))

/-- What a predicate on a column writes after so many bound scalars. -/
def written (column : Expr) : Predicate → Nat → Expr
  | .compare .eq .null, _ => .isNull column
  | .compare .ne .null, _ => .isNotNull column
  | .compare relation _, bound => .binary (.ofRelation relation) column (.param (bound + 1))
  | .like _, bound => .binary .like column (.param (bound + 1))
  | .notLike _, bound => .binary .notLike column (.param (bound + 1))
  | .oneOf items, bound => .oneOf column (List.range' (bound + 1) items.length)
  | .noneOf items, bound => .noneOf column (List.range' (bound + 1) items.length)
  | .contains _, bound => (boundElement (bound + 1)).contained column
  | .lacks _, bound =>
    .group (.binary .or (.isNull column) (.not ((boundElement (bound + 1)).contained column)))

end Predicate

namespace Sql

open Predicate

theorem builds_comparison (column : Expr) (operator : Operator) (operand : Scalar) :
    Builds (comparison column operator operand) (.ok [operand]) 1 fun bound =>
      .binary operator column (.param (bound + 1)) :=
  (builds_bound operand).map fun placeholder => Expr.binary operator column placeholder

theorem builds_boundPositions (element : Scalar) :
    Builds (boundPositions element) (.ok [element]) 1 fun bound => boundElement (bound + 1) :=
  (builds_bound element).map fun placeholder => Positions.of (.jsonQuote placeholder)

theorem builds_sought (type? : Option ColumnType) (element : Scalar) (f : Positions → Expr) :
    Builds (do
      let element ← ColumnType.membershipOperand type? element
      let positions ← boundPositions element
      pure (f positions)) (soughtOperand type? element) 1 fun bound => f (boundElement (bound + 1)) :=
  Builds.check fun sought _ => (builds_boundPositions sought).map f

theorem builds_predicate (column : Expr) (type? : Option ColumnType) (p : Predicate) :
    Builds (predicate column type? p) (p.operands type?) p.arity (p.written column) := by
  cases p with
  | compare relation operand =>
      cases relation <;> cases operand
      all_goals first
        | exact Builds.pure _
        | exact builds_comparison column _ _
  | like pattern => exact builds_comparison column .like pattern
  | notLike pattern => exact builds_comparison column .notLike pattern
  | oneOf items => exact (builds_items items).map fun params => Expr.oneOf column params
  | noneOf items => exact (builds_items items).map fun params => Expr.noneOf column params
  | contains element =>
      exact builds_sought type? element fun positions => positions.contained column
  | lacks element =>
      exact builds_sought type? element fun positions =>
        .group (.binary .or (.isNull column) (.not (positions.contained column)))

/-- Conditions joined by `and` from the left. -/
def conjunction : List Expr → Expr
  | [] => .null
  | first :: rest => rest.foldl (.binary .and) first

/-- A builder that joins what it builds to what it has, part by part. -/
theorem builds_joined {β : Type} (builder : β → Binder Expr)
    (joined : Expr → List β → Binder Expr) {operands : β → Except QueryError (List Scalar)}
    {arity : β → Nat} {written : β → Nat → Expr}
    (joined_nil : ∀ first : Expr, joined first [] = pure first)
    (joined_cons : ∀ (first : Expr) (part : β) (rest : List β), joined first (part :: rest) =
      builder part >>= fun next => joined (.binary .and first next) rest)
    (builds : ∀ part : β, Builds (builder part) (operands part) (arity part) (written part))
    (first : Expr) (parts : List β) :
    Builds (joined first parts) (operandsOf operands parts) (arityOf arity parts) fun bound =>
      (writtenOf arity written bound parts).foldl (.binary .and) first := by
  induction parts generalizing first with
  | nil =>
      rw [joined_nil]
      exact Builds.pure first
  | cons part rest inductionHypothesis =>
      rw [joined_cons]
      exact (builds part).bind fun next => inductionHypothesis (.binary .and first next)

end Sql

/-! ## Conditions and filters -/

namespace Condition

/-- The operands of a condition, which must be on a valid reference and have a predicate. -/
def operands (columns : Columns) (c : Condition) : Except QueryError (List Scalar) := do
  require (isColumnReference c.column) (.invalidColumnName c.column)
  if c.predicates.isEmpty then reject (.noOperator c.column)
  else operandsOf (Predicate.operands (columns.type? c.column)) c.predicates

/-- A condition on a valid reference, with some predicate, has the operands of its predicates. -/
theorem operands_of_valid (columns : Columns) {c : Condition}
    (valid : isColumnReference c.column = true) (nonempty : c.predicates ≠ []) :
    c.operands columns =
      operandsOf (Predicate.operands (columns.type? c.column)) c.predicates := by
  have notEmpty : ¬ c.predicates.isEmpty = true := mt List.isEmpty_iff.mp nonempty
  rw [operands, valid]
  exact if_neg notEmpty

def arity (c : Condition) : Nat :=
  arityOf Predicate.arity c.predicates

/-- What a condition writes after so many bound scalars. -/
def written (columns : Columns) (c : Condition) (bound : Nat) : Expr :=
  .group (conjunction
    (writtenOf Predicate.arity (Predicate.written (.column (columns.path c.column))) bound
      c.predicates))

end Condition

theorem Sql.builds_condition (columns : Columns) (c : Condition) :
    Builds (condition columns c) (c.operands columns) c.arity (c.written columns) := by
  rcases c with ⟨column, predicates⟩
  refine Builds.check fun _ _ => ?_
  cases predicates with
  | nil => exact Builds.refused _ _ _
  | cons p rest =>
      let path : Expr := .column (columns.path column)
      let type? := columns.type? column
      have first := builds_predicate path type? p
      have others (expression : Expr) := builds_joined (predicate path type?)
        (andPredicates path type?) (fun _ => rfl) (fun _ _ _ => rfl)
        (builds_predicate path type?) expression rest
      have all := first.bind fun expression => (others expression).map Expr.group
      exact all

namespace Filter

/-- The operands of a filter.  The empty filter compares two true values. -/
def operands (columns : Columns) (f : Filter) : Except QueryError (List Scalar) :=
  if f.isEmpty then .ok [.bool true, .bool true]
  else operandsOf (Condition.operands columns) f.conditions

def arity (f : Filter) : Nat :=
  if f.isEmpty then 2 else arityOf Condition.arity f.conditions

/-- What a filter writes after so many bound scalars. -/
def written (columns : Columns) (f : Filter) (bound : Nat) : Expr :=
  if f.isEmpty then .binary .eq (.param (bound + 1)) (.param (bound + 2))
  else conjunction (writtenOf Condition.arity (Condition.written columns) bound f.conditions)

end Filter

theorem Sql.builds_whereClause (columns : Columns) (f : Filter) :
    Builds (whereClause columns f) (f.operands columns) f.arity (f.written columns) := by
  rcases f with ⟨conditions⟩
  cases conditions with
  | nil =>
      exact (builds_bound (.bool true)).bind fun left =>
        (builds_bound (.bool true)).map fun right => Expr.binary .eq left right
  | cons c rest =>
      exact (builds_condition columns c).bind fun first =>
        builds_joined (condition columns) (andConditions columns) (fun _ => rfl)
          (fun _ _ _ => rfl) (builds_condition columns) first rest

/-! ## Changes -/

namespace Change

/-- The operand of a change of a column of a type, if the operator applies to the type. -/
def operands (column : String) (type : ColumnType) (change : Change) :
    Except QueryError (List Scalar) :=
  match change with
  | .set value => do
    let stored ← type.stored value
    pure [stored]
  | .increase value => if type.isNumeric then numeric value else unsupported
  | .decrease value => if type.isNumeric then numeric value else unsupported
  | .multiply value => if type.isNumeric then numeric value else unsupported
  | .add value =>
    if type.isNumeric then numeric value
    else if type.isSet then element value
    else if type = .text then .ok [value.toScalar]
    else unsupported
  | .remove value => if type.isSet then element value else unsupported
where
  numeric (value : Value) : Except QueryError (List Scalar) := do
    let operand ← numericOperand column value
    pure [operand]
  element (value : Value) : Except QueryError (List Scalar) := do
    let element ← type.element value
    pure [element.toScalar]
  /-- The operator does not apply to columns of the type. -/
  unsupported : Except QueryError (List Scalar) :=
    reject (.unsupportedOperator change.operator type column)

/-- The new value of a column, as it is written after so many bound scalars. -/
def written (column : String) (type : ColumnType) (change : Change) (bound : Nat) : Expr :=
  let current : Expr := .column (Reference.ofText column).path
  let operand : Expr := .param (bound + 1)
  match change with
  | .set _ => operand
  | .increase _ => .binary .plus current operand
  | .decrease _ => .binary .minus current operand
  | .multiply _ => .cast (.binary .times current operand) type.declaration
  | .add _ =>
    if type.isNumeric then .binary .plus current operand
    else if type.isSet then (Predicate.boundElement (bound + 1)).inserted current
    else .binary .concat current operand
  | .remove _ => (Predicate.boundElement (bound + 1)).removed current

end Change

namespace Sql

open Predicate

theorem builds_arithmetic (column : String) (operator : Operator) (value : Value) :
    Builds (arithmetic column operator value) (Change.operands.numeric column value) 1 fun bound =>
      .binary operator (.column (Reference.ofText column).path) (.param (bound + 1)) :=
  Builds.check fun operand _ => (builds_bound operand).map fun placeholder =>
    Expr.binary operator (.column (Reference.ofText column).path) placeholder

theorem builds_edited (type : ColumnType) (value : Value) (f : Positions → Expr) :
    Builds (do
      let element ← type.element value
      let positions ← boundPositions element.toScalar
      pure (f positions)) (Change.operands.element type value) 1 fun bound =>
        f (boundElement (bound + 1)) :=
  Builds.check fun element _ => (builds_boundPositions element.toScalar).map f

section

variable {α : Type} {builder other : Binder α} {operands others : Except QueryError (List Scalar)}
  {arity : Nat} {written otherWritten : Nat → α} {condition : Prop} [Decidable condition]

theorem builds_either (builds : Builds builder operands arity written)
    (otherBuilds : Builds other others arity otherWritten) :
    Builds (if condition then builder else other) (if condition then operands else others) arity
      fun bound => if condition then written bound else otherWritten bound := by
  by_cases holds : condition
  · simpa only [if_pos holds] using builds
  · simpa only [if_neg holds] using otherBuilds

/-- A part that is refused unless a condition holds. -/
theorem builds_supported (fault : Fault) (builds : Builds builder operands arity written) :
    Builds (if condition then builder else liftM (reject fault : Except QueryError α))
      (if condition then operands else reject fault) arity written := by
  by_cases holds : condition
  · rwa [if_pos holds, if_pos holds]
  · rw [if_neg holds, if_neg holds]
    exact Builds.refused _ _ _

end

theorem builds_changedValue (column : String) (type : ColumnType) (change : Change) :
    Builds (changedValue column type change) (change.operands column type) 1
      (change.written column type) := by
  let current : Expr := .column (Reference.ofText column).path
  cases change with
  | set value => exact Builds.check fun stored _ => builds_bound stored
  | increase value =>
      exact builds_supported _ (builds_arithmetic column .plus value)
  | decrease value =>
      exact builds_supported _ (builds_arithmetic column .minus value)
  | multiply value =>
      have product := (builds_arithmetic column .times value).map fun product =>
        Expr.cast product type.declaration
      exact builds_supported _ product
  | add value =>
      have appended := (builds_bound value.toScalar).map fun operand =>
        Expr.binary .concat current operand
      have inserted := builds_edited type value fun positions => positions.inserted current
      exact builds_either (builds_arithmetic column .plus value)
        (builds_either inserted (builds_supported _ appended))
  | remove value =>
      have removed := builds_edited type value fun positions => positions.removed current
      exact builds_supported _ removed

end Sql
end DocumentQuery
