import DocumentQuery.Query.Adapt
import DocumentQuery.Query.ResultSet
import DocumentQuery.Session.Connection
import DocumentQuery.Sql.Delete
import DocumentQuery.Sql.Insert
import DocumentQuery.Sql.Update

namespace DocumentQuery

/-!
# Reading and writing a table

A handle holds the definition that a table had when the handle was opened.  Every statement
is checked against that definition before anything is asked of the store.
-/

/-- A table to read from and write to. -/
structure TableHandle where
  table : Table
deriving Repr

namespace TableHandle

variable {σ : Type}

def display (h : TableHandle) : String :=
  "TableHandle \x7b table: " ++ Text.quoted h.table.storeName ++ " \x7d"

def openTable (schema name : String) : Action σ TableHandle := do
  let table ← Connection.table schema name
  pure ⟨table⟩

/-! ## Queries -/

/-- The table that a join target stands for; a name without a schema is looked for in the
schema of the source. -/
def resolveTarget (source : Table) : JoinTarget → Action σ Table
  | .table table => pure table
  | .named name => do
    let (schema, table) := Join.splitTarget name source.schema
    match ← Connection.loadTable schema table with
    | some found => pure found
    | none => throw (.targetNotFound (Text.lowercase schema) (Text.lowercase table))

/-- The target of the join of a query, if it has one. -/
def resolveJoin (source : Table) : Option Join → Action σ (Option Table)
  | none => pure none
  | some join => do
    let table ← resolveTarget source join.target
    pure (some table)

def find (h : TableHandle) (q : Query) : Action σ ResultSet := do
  let join? ← Connection.check q.join?
  let target? ← resolveJoin h.table join?
  let statement ← Connection.check (Sql.select q h.table target?)
  let rows : List Row ← Connection.ask (.query statement)
  let rows ← Connection.check (q.adaptRows h.table target? rows)
  pure { rows,
         origin := { table := h.table.storeName, shape? := join?.map Join.shape,
                     aggregate := q.isAggregate } }

/-- The first row that a query asks for. -/
def findOne (h : TableHandle) (q : Query) : Action σ (Option Row) := do
  let result ← h.find q.first
  pure result.first?

/-- The rows that a query asks for without its filter. -/
def findAll (h : TableHandle) (q : Query) : Action σ ResultSet :=
  h.find (q.select .all)

def count (h : TableHandle) (f : Filter) : Action σ UInt64 := do
  let statement ← Connection.check (Sql.count h.table f)
  let row? ← Connection.queryOne statement
  let n := ((row?.bind (OrderedMap.get? · "count")).bind Value.toInt64?).getD 0
  pure (if n < 0 then 0 else n.toUInt64)

/-! ## Changes -/

/-- Insert a row; its identity is returned on request. -/
def insert (h : TableHandle) (row : Row) (returnId : Bool) : Action σ (Option Int64) := do
  let statement ← Connection.check (Sql.insert h.table row)
  let outcome : RunOutcome ← Connection.ask (.run statement)
  pure (if returnId then outcome.lastId? else none)

/-- Run statements one after the other, and return the identities that they report. -/
def runAll : List Sql.Statement → Action σ (List Int64)
  | [] => pure []
  | statement :: rest => do
    let outcome : RunOutcome ← Connection.ask (.run statement)
    let later ← runAll rest
    pure (outcome.lastId?.toList ++ later)

/-- Insert rows in one transaction; their identities are returned on request. -/
def insertMany (h : TableHandle) (rows : List Row) (returnId : Bool) :
    Action σ (List Int64) := do
  let statements ← Connection.check (rows.mapM (Sql.insert h.table))
  if statements.isEmpty then pure []
  else do
    let ids ← Connection.transaction (runAll statements)
    pure (if returnId then ids else [])

/-- Run a statement, and return the number of rows that it changed. -/
def change (statement : Except QueryError Sql.Statement) : Action σ UInt64 := do
  let statement ← Connection.check statement
  let outcome : RunOutcome ← Connection.ask (.run statement)
  pure outcome.affected

def update (h : TableHandle) (changes : Changes) (f : Filter) : Action σ UInt64 :=
  change (Sql.update h.table changes f)

def remove (h : TableHandle) (f : Filter) : Action σ UInt64 :=
  change (Sql.delete h.table f)

def truncate (h : TableHandle) : Action σ UInt64 :=
  change (.ok (Sql.truncate h.table))

end TableHandle
end DocumentQuery
