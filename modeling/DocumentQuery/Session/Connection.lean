import DocumentQuery.Config
import DocumentQuery.Session.Cache
import DocumentQuery.Sql.Definition
import DocumentQuery.Store.Basic
import DocumentQuery.Text.Quoted

namespace DocumentQuery

/-!
# Connections

A connection owns a store, the definitions it has met, and what the store said about
itself.  Operations are actions on a connection: they change its state, may fail, and
leave the state they have reached when they do.  On a closed connection every operation
fails before it asks anything of the store.
-/

/-- What a store says about itself. -/
structure Server where
  version : String
  host : String := "localhost"
  port? : Option UInt16 := none
deriving Repr, DecidableEq, Inhabited

def Server.toJson (s : Server) : Json :=
  .ofMembers [("version", .string s.version), ("host", .string s.host),
    ("port", Json.ofOption (fun port => .ofUInt64 port.toUInt64) s.port?)]

def Server.display (s : Server) : String :=
  let port := match s.port? with
    | some port => "Some(" ++ String.ofList (Decimal.natural port.toNat) ++ ")"
    | none => "None"
  "Server \x7b version: " ++ Text.quoted s.version ++ ", host: " ++
    Text.quoted s.host ++ ", port: " ++ port ++ " \x7d"

/-- A connection to a store with states in `σ`. -/
structure Connection (σ : Type) where
  config : Config
  store : Store σ
  state : σ
  isOpen : Bool
  cache : DefinitionCache
  server : Server

/-- An operation on a connection. -/
abbrev Action (σ : Type) := ExceptT QueryError (StateM (Connection σ))

namespace Connection

variable {σ α : Type}

/-- Open a connection to a store, which is asked for its version. -/
def start (config : Config) (store : Store σ) (state : σ) :
    Except QueryError (Connection σ) :=
  match store.answer .version state with
  | (.ok version, state) =>
    .ok { config, store, state, isOpen := true, cache := .ofDatabase config.database,
          server := { version } }
  | (.error e, _) => .error (.store e)

/-- Close a connection and forget all definitions.  Closing it again changes nothing. -/
def close (c : Connection σ) : Connection σ :=
  if c.isOpen then { c with isOpen := false, cache := .ofDatabase c.config.database } else c

def display (c : Connection σ) : String :=
  "Connection \x7b database: " ++ Text.quoted c.config.database ++ ", connected: " ++
    boolText c.isOpen ++ ", server: " ++ c.server.display ++ " \x7d"

/-! ## Asking the store -/

/-- Fail unless the connection is open. -/
def requireOpen : Action σ Unit := do
  let c ← getThe (Connection σ)
  if c.isOpen then pure () else throw .notConnected

/-- Ask something of the store. -/
def ask (call : Call) : Action σ call.Answer := do
  requireOpen
  let c ← getThe (Connection σ)
  let (answer, state) := c.store.answer call c.state
  set { c with state }
  match answer with
  | .ok answer => pure answer
  | .error e => throw (.store e)

/-- Refuse an operation, or go on with a value. -/
def check (result : Except QueryError α) : Action σ α :=
  liftExcept result
where
  /-- A result as an action that asks nothing. -/
  liftExcept : Except QueryError α → Action σ α
    | .ok value => pure value
    | .error e => throw e

/-- Run an action to its end, whether it fails or not. -/
def attempt (action : Action σ α) : Action σ (Except QueryError α) :=
  ExceptT.lift action.run

def cached : Action σ DefinitionCache := do
  let c ← getThe (Connection σ)
  pure c.cache

def updateCache (f : DefinitionCache → DefinitionCache) : Action σ Unit :=
  modifyThe (Connection σ) fun c => { c with cache := f c.cache }

def serverInfo : Action σ Server := do
  requireOpen
  let c ← getThe (Connection σ)
  pure c.server

/-- The first row that a statement returns. -/
def queryOne (statement : Sql.Statement) : Action σ (Option Row) := do
  let rows : List Row ← ask (.query statement)
  pure rows.head?

/-- The definition of a table.  A definition that is not remembered is read from the store
and remembered; a table without columns does not exist. -/
def loadTable (schema table : String) : Action σ (Option Table) := do
  requireOpen
  let cache ← cached
  match cache.table? schema table with
  | some found => pure (some found)
  | none =>
    let columns : List StoredColumn ← ask (.describe (Name.qualified schema table))
    if columns.isEmpty then pure none
    else
      let loaded := Table.named schema table (columns.map Column.ofStored)
      updateCache fun cache => cache.addTable loaded
      pure (some loaded)

/-- Run an action in a transaction.  If the action fails the transaction is rolled back and
the failure is that of the action. -/
def transaction (action : Action σ α) : Action σ α := do
  let _ ← ask .begin
  match ← attempt action with
  | .ok value =>
    let _ ← ask .commit
    pure value
  | .error e =>
    let _ ← attempt (ask .rollback)
    throw e

/-! ## Schemas -/

/-- A schema, which is remembered from then on. -/
def schema (name : String) : Action σ Schema := do
  requireOpen
  check (Sql.checkIdentifier "Schema" name)
  let c ← getThe (Connection σ)
  match c.cache.schema? name with
  | some found => pure found
  | none =>
    let (schema, cache) := c.cache.addSchema (.named c.config.database name)
    set { c with cache }
    pure schema

/-- Create a schema.  A schema is only a part of the names of its tables, so there is
nothing to be done in the store. -/
def createSchema (name : String) : Action σ Schema :=
  schema name

def dropSchema (name : String) : Action σ Unit := do
  requireOpen
  check (Sql.checkIdentifier "Schema" name)
  updateCache fun cache => (cache.forgetSchema name).2

/-! ## Tables -/

/-- The definition of a table, if it exists. -/
def findTable (schema table : String) : Action σ (Option Table) := do
  requireOpen
  check (Sql.checkIdentifier "Schema" schema)
  check (Sql.checkIdentifier "Table" table)
  loadTable schema table

/-- The definition of a table that must exist. -/
def table (schema name : String) : Action σ Table := do
  let table? ← findTable schema name
  check (orReject table? (.noTable (Name.qualified schema name)))

/-- A table exists and has all of these columns. -/
def hasTable (schema table : String) (columns : List String) : Action σ Bool := do
  let table? ← findTable schema table
  match table? with
  | some found => pure (found.hasColumns columns)
  | none => pure false

/-- All of these tables exist; after the first one that does not no other is looked for. -/
def hasTables (schema : String) : List String → Action σ Bool
  | [] => do
    requireOpen
    pure true
  | table :: rest => do
    match ← findTable schema table with
    | some _ => hasTables schema rest
    | none => pure false

def createTable (schema table : String) (columns : List Sql.ColumnDefinition)
    (temporary ifNotExists : Bool) : Action σ Unit := do
  requireOpen
  let pieces ← check (Sql.createTable schema table columns temporary ifNotExists)
  ask (.batch pieces)

/-- Drop a table.  Its definition is forgotten even if the store fails. -/
def dropTable (schema table : String) : Action σ Unit := do
  requireOpen
  check (Sql.checkIdentifier "Schema" schema)
  check (Sql.checkIdentifier "Table" table)
  let result ← attempt (ask (.batch (Sql.dropTable schema table)))
  updateCache fun cache => (cache.forgetTable schema table).2
  check result

/-! ## Indexes -/

def createIndex (schema table index : String) (columns : List String)
    (unique ifNotExists : Bool) : Action σ Unit := do
  requireOpen
  check (Sql.checkIdentifier "Schema" schema)
  let pieces ← check (Sql.createIndex schema table index columns unique ifNotExists)
  ask (.batch pieces)

def dropIndex (schema index : String) : Action σ Unit := do
  requireOpen
  check (Sql.checkIdentifier "Schema" schema)
  check (Sql.checkIdentifier "Index" index)
  ask (.batch (Sql.dropIndex schema index))

/-- The name of the table that an index belongs to. -/
def findIndex (schema index : String) : Action σ (Option String) := do
  requireOpen
  check (Sql.checkIdentifier "Schema" schema)
  check (Sql.checkIdentifier "Index" index)
  let row? ← queryOne (Sql.findIndex schema index)
  pure ((row?.bind (OrderedMap.get? · "tbl_name")).bind Value.toText?)

def hasIndex (schema index : String) : Action σ Bool := do
  let table? ← findIndex schema index
  pure table?.isSome

end Connection
end DocumentQuery
