import DocumentQuery.Filter.Basic

namespace DocumentQuery

/-!
# Grouping

Rows may be grouped by columns and summed up for each group.  Groups are selected by
predicates on the results of the aggregations.
-/

/-- A function of the values of a column over a group. -/
inductive AggregateFunction where
  | sum
  | count
  | min
  | max
  | avg
deriving Repr, DecidableEq

def AggregateFunction.name : AggregateFunction → String
  | .sum => "sum"
  | .count => "count"
  | .min => "min"
  | .max => "max"
  | .avg => "avg"

/-- A result for each group: a function of a column, or of whole rows, under a name.  Groups
are kept if the result satisfies the predicates. -/
structure Aggregation where
  function : AggregateFunction
  column : String
  name : String
  predicates : List Predicate := []
deriving Repr, BEq

/-- Columns to group by, and the results for each group. -/
structure Grouping where
  columns : List String := []
  aggregations : List Aggregation := []
deriving Repr, BEq, Inhabited

namespace Grouping

def aggregate (g : Grouping) (aggregation : Aggregation) : Grouping :=
  { g with aggregations := g.aggregations ++ [aggregation] }

/-- Give the first aggregation with a name one more predicate. -/
def addPredicate (name : String) (predicate : Predicate) : List Aggregation → List Aggregation
  | [] => []
  | a :: rest =>
    if a.name = name then { a with predicates := a.predicates ++ [predicate] } :: rest
    else a :: addPredicate name predicate rest

/-- Keep only groups whose result under a name satisfies a predicate. -/
def having (g : Grouping) (name : String) (predicate : Predicate) : Grouping :=
  { g with aggregations := addPredicate name predicate g.aggregations }

/-- The predicates on all results, as one filter. -/
def havingFilter (g : Grouping) : Filter :=
  g.aggregations.foldl
    (fun f a => a.predicates.foldl (fun f predicate => f.push a.name predicate) f) .all

end Grouping
end DocumentQuery
