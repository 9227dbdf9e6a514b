import DocumentQuery.Proofs.Sql.Statements

namespace DocumentQuery

open Sql

/-!
# Requests

A *request* is anything that a statement, or the condition of one, is built from.  What is
built consists of what the request writes and of its operands, after the scalars that were
bound before.  Whatever holds of all statements is shown once, for requests.
-/

/-- What a statement, or the condition of one, is built from. -/
inductive Request where
  /-- A filter on columns as they are named, after some bound scalars. -/
  | filter (params : List Scalar) (f : Filter)
  /-- A filter on the columns of a table, after some bound scalars. -/
  | tableFilter (table : Table) (params : List Scalar) (f : Filter)
  | select (q : Query) (source : Table) (target? : Option Table)
  | count (table : Table) (f : Filter)
  | delete (table : Table) (f : Filter)
  | update (table : Table) (changes : Changes) (f : Filter)
  | insert (table : Table) (row : Row)

namespace Request

/-- The condition that is built, and all bound scalars. -/
def conditionAfter (params : List Scalar) (condition : Binder Expr) :
    Except QueryError Statement := do
  let (condition, params) ← condition.run params
  pure ⟨condition.pieces, params⟩

def build : Request → Except QueryError Statement
  | filter params f => conditionAfter params (whereClause .asNamed f)
  | tableFilter table params f => conditionAfter params (whereIn table f)
  | select q source target? => Sql.select q source target?
  | count table f => Sql.count table f
  | delete table f => Sql.delete table f
  | update table changes f => Sql.update table changes f
  | insert table row => Sql.insert table row

/-- Add a tag to the items with a name that do not have the tag. -/
def tagging (tag name : String) : Request :=
  .update ⟨"default", "items", [{ name := "tags", type := .textSet },
      { name := "name", type := .text }]⟩
    ⟨[("tags", .add (.text tag))]⟩
    ⟨[⟨"name", [.compare .eq (.text name)]⟩, ⟨"tags", [.lacks (.text tag), .compare .ne .null]⟩]⟩

/-- The scalars that are bound before anything is built. -/
def before : Request → List Scalar
  | filter params _ => params
  | tableFilter _ params _ => params
  | _ => []

/-- The operands of what is asked for, in reading order: changes before the filter, the
filter before the condition on groups, and the columns of a row as they come. -/
def operands : Request → Except QueryError (List Scalar)
  | filter _ f => f.operands .asNamed
  | tableFilter table _ f => f.operands (.ofScope (.single table))
  | select q source target? => do
    let (scope, _) ← q.frame source target?
    q.operands scope
  | count table f => f.operands (.ofScope (.single table))
  | delete table f => f.operands (.ofScope (.single table))
  | update table changes f => do
    let values ← changes.operands table
    let others ← f.operands (.ofScope (.single table))
    pure (values ++ others)
  | insert table row => row.operands table

/-- The pieces that are written for what is asked for. -/
def written : Request → Except QueryError (List Piece)
  | filter params f => .ok (f.written .asNamed params.length).pieces
  | tableFilter table params f => .ok (f.written (.ofScope (.single table)) params.length).pieces
  | select q source target? => do
    let (scope, frame) ← q.frame source target?
    pure (q.written scope frame)
  | count table f => .ok (.word "SELECT count(*) AS " :: .name "count" :: .word " FROM " ::
      .name table.storeName :: .word " WHERE " :: (f.written (.ofScope (.single table)) 0).pieces)
  | delete table f => .ok (.word "DELETE FROM " :: .name table.storeName :: .word " WHERE " ::
      (f.written (.ofScope (.single table)) 0).pieces)
  | update table changes f => .ok (.word "UPDATE " :: .name table.storeName :: .word " SET " ::
      separated ", " (changes.written table 0) ++ .word " WHERE " ::
      (f.written (.ofScope (.single table)) changes.arity).pieces)
  | insert table row => .ok (row.inserted table)

theorem conditionAfter_ok {condition : Binder Expr}
    {operands : Except QueryError (List Scalar)} {arity : Nat} {written : Nat → Expr}
    (builds : Builds condition operands arity written) {params : List Scalar}
    {statement : Statement} (accepted : conditionAfter params condition = .ok statement) :
    ∃ values, operands = .ok values ∧ statement.params = params ++ values ∧
      statement.pieces = (written params.length).pieces := by
  rw [conditionAfter, builds.run_eq] at accepted
  cases operands with
  | error error => exact nomatch accepted
  | ok values =>
      cases accepted
      exact ⟨values, rfl, rfl, rfl⟩

/-- What is built has the operands of its request after the scalars bound before, and the
pieces that the request writes. -/
theorem build_ok {r : Request} {statement : Statement} (accepted : r.build = .ok statement) :
    ∃ values, r.operands = .ok values ∧ statement.params = r.before ++ values ∧
      r.written = .ok statement.pieces := by
  cases r with
  | filter params f =>
      rcases conditionAfter_ok (builds_whereClause .asNamed f) accepted with
        ⟨values, bound, params_eq, pieces⟩
      exact ⟨values, bound, params_eq, congrArg Except.ok pieces.symm⟩
  | tableFilter table params f =>
      rcases conditionAfter_ok (builds_whereIn table f) accepted with
        ⟨values, bound, params_eq, pieces⟩
      exact ⟨values, bound, params_eq, congrArg Except.ok pieces.symm⟩
  | select q source target? =>
      rcases (select_iff q source target? statement).mp accepted with
        ⟨scope, frame, framed, bound, pieces⟩
      refine ⟨statement.params, ?_, rfl, ?_⟩
      · rw [operands, framed]
        exact bound
      · rw [written, framed, pieces]
        rfl
  | count table f =>
      rcases (count_iff table f statement).mp accepted with ⟨bound, pieces⟩
      exact ⟨statement.params, bound, rfl, congrArg Except.ok pieces.symm⟩
  | delete table f =>
      rcases (delete_iff table f statement).mp accepted with ⟨bound, pieces⟩
      exact ⟨statement.params, bound, rfl, congrArg Except.ok pieces.symm⟩
  | update table changes f =>
      rcases (update_iff table changes f statement).mp accepted with ⟨bound, pieces⟩
      exact ⟨statement.params, bound, rfl, congrArg Except.ok pieces.symm⟩
  | insert table row =>
      rcases (insert_iff table row statement).mp accepted with ⟨bound, pieces⟩
      exact ⟨statement.params, bound, rfl, congrArg Except.ok pieces.symm⟩

end Request
end DocumentQuery
