import DocumentQuery.Filter.Matching
import DocumentQuery.Query.Join

namespace DocumentQuery

/-!
# Result sets

The rows of a result, with a note of where they come from.  A result set can be filtered
and cut further without the store.
-/

/-- Where the rows of a result come from. -/
structure ResultOrigin where
  table : String := ""
  shape? : Option JoinShape := none
  aggregate : Bool := false
deriving Repr, DecidableEq, Inhabited

def ResultOrigin.toJson (o : ResultOrigin) : Json :=
  .ofMembers [("table", .string o.table), ("aggregate", .bool o.aggregate)]

/-- The rows of a result. -/
structure ResultSet where
  rows : List Row := []
  origin : ResultOrigin := {}
deriving Repr, Inhabited

namespace ResultSet

def find (r : ResultSet) (f : Filter) : ResultSet :=
  { r with rows := r.rows.filter f.selects }

/-- At most `count` rows after the first `start`. -/
def limit (r : ResultSet) (count start : Nat) : ResultSet :=
  { r with rows := (r.rows.drop start).take count }

def first? (r : ResultSet) : Option Row :=
  r.rows.head?

def rowsJson (r : ResultSet) : Json :=
  .array (r.rows.map Row.toJson)

def toJson (r : ResultSet) : Json :=
  .ofMembers [("rows", r.rowsJson)]

end ResultSet
end DocumentQuery
