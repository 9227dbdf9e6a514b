import DocumentQuery.Query.Grouping
import DocumentQuery.Query.Join

namespace DocumentQuery

/-!
# Queries

A query holds everything that is asked of a table: a filter, a grouping, an order, a limit
and joins.  It is built step by step; a later filter, grouping or limit replaces an
earlier one, orders and joins add up.
-/

inductive Direction where
  | ascending
  | descending
deriving Repr, DecidableEq

def Direction.word : Direction → String
  | .ascending => "ASC"
  | .descending => "DESC"

/-- At most so many rows, if there is a bound, after leaving out some at the start. -/
structure Limit where
  count? : Option UInt64
  start : UInt64
deriving Repr, DecidableEq

/-- What is asked of a table. -/
structure Query where
  filter : Filter := {}
  grouping? : Option Grouping := none
  order : List (String × Direction) := []
  limit? : Option Limit := none
  joins : List Join := []
deriving Repr, BEq, Inhabited

namespace Query

def select (q : Query) (filter : Filter) : Query :=
  { q with filter := filter }

/-- Give a column in an order another direction, or add it at the end. -/
def orderEntry (column : String) (direction : Direction) :
    List (String × Direction) → List (String × Direction)
  | [] => [(column, direction)]
  | (name, old) :: rest =>
    if name = column then (name, direction) :: rest
    else (name, old) :: orderEntry column direction rest

/-- Order by one more column.  A column that is there keeps its place and takes the new
direction. -/
def orderBy (q : Query) (column : String) (direction : Direction) : Query :=
  { q with order := orderEntry column direction q.order }

/-- Take at most `count` rows after the first `start`. -/
def limit (q : Query) (count start : UInt64) : Query :=
  { q with limit? := some ⟨some count, start⟩ }

/-- Leave out the first `start` rows; a bound that is there stays. -/
def offset (q : Query) (start : UInt64) : Query :=
  { q with limit? := some ⟨q.limit?.bind Limit.count?, start⟩ }

def groupBy (q : Query) (grouping : Grouping) : Query :=
  { q with grouping? := some grouping }

def join (q : Query) (join : Join) : Query :=
  { q with joins := q.joins ++ [join] }

/-- Ask for the first row only, after those that are left out. -/
def first (q : Query) : Query :=
  { q with limit? := some ⟨some 1, (q.limit?.map Limit.start).getD 0⟩ }

/-- The join of a query, if it has one.  A query may have no more than one. -/
def join? (q : Query) : Except QueryError (Option Join) :=
  match q.joins with
  | [] => .ok none
  | [join] => .ok (some join)
  | _ => reject .severalJoins

/-- The rows of the result stand for groups. -/
def isAggregate (q : Query) : Bool :=
  q.grouping?.isSome

end Query
end DocumentQuery
