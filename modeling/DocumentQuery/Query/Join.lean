import DocumentQuery.Table.Basic

namespace DocumentQuery

/-!
# Joins

A join combines each row of the source with the rows of a target whose join column has the
same value.  The shape of the combined rows depends on how many there may be.
-/

/-- How many rows of the target belong to one of the source, as far as it matters for the
shape of rows. -/
inductive JoinShape where
  | flat
  | oneToOne
  | oneToMany
deriving Repr, DecidableEq

/-- The target of a join: a name, possibly with its schema, or a known table. -/
inductive JoinTarget where
  | named (name : String)
  | table (table : Table)
deriving Repr, BEq

/-- An inner join. -/
structure Join where
  shape : JoinShape
  target : JoinTarget
  sourceColumn : String
  targetColumn : String
deriving Repr, BEq

namespace Join

/-- The join on columns of these names; without a target column it is the source column's
name in both tables. -/
def on (shape : JoinShape) (target : JoinTarget) (sourceColumn : String)
    (targetColumn? : Option String) : Join :=
  ⟨shape, target, sourceColumn, targetColumn?.getD sourceColumn⟩

/-- The schema and the table that a target name stands for. -/
def splitTarget (name defaultSchema : String) : String × String :=
  match Text.splitAtFirst '.' name.toList with
  | some (schema, table) => (String.ofList schema, String.ofList table)
  | none => (defaultSchema, name)

end Join
end DocumentQuery
