import DocumentQuery.Table.Basic

namespace DocumentQuery

/-!
# Definition caches

A connection remembers the definitions of the tables it has met, by schema and table and
without regard to letter case.  Definitions are forgotten only when that is asked for.
-/

structure SchemaEntry where
  schema : Schema
  tables : OrderedMap Table := .empty
deriving Repr

/-- The remembered definitions of a database. -/
structure DefinitionCache where
  database : String
  schemas : OrderedMap SchemaEntry := .empty
deriving Repr

namespace DefinitionCache

/-- The cache of a database that remembers nothing. -/
def ofDatabase (database : String) : DefinitionCache :=
  { database }

/-- What is remembered of a schema. -/
def entry? (c : DefinitionCache) (schema : String) : Option SchemaEntry :=
  c.schemas.get? (Text.lowercase schema)

def schema? (c : DefinitionCache) (schema : String) : Option Schema :=
  (c.entry? schema).map SchemaEntry.schema

def hasSchema (c : DefinitionCache) (schema : String) : Bool :=
  (c.entry? schema).isSome

def table? (c : DefinitionCache) (schema table : String) : Option Table :=
  (c.entry? schema).bind fun entry => entry.tables.get? (Text.lowercase table)

def hasTable (c : DefinitionCache) (schema table : String) : Bool :=
  (c.table? schema table).isSome

/-- Remember a schema, unless one of its name is remembered; the remembered one is
returned. -/
def addSchema (c : DefinitionCache) (schema : Schema) : Schema × DefinitionCache :=
  match c.schemas.get? schema.name with
  | some entry => (entry.schema, c)
  | none => (schema, { c with schemas := c.schemas.insert schema.name { schema } })

/-- Remember a definition in place of an earlier one. -/
def addTable (c : DefinitionCache) (table : Table) : DefinitionCache :=
  let entry : SchemaEntry :=
    (c.schemas.get? table.schema).getD { schema := .named c.database table.schema }
  let entry := { entry with tables := entry.tables.insert table.name table }
  { c with schemas := c.schemas.insert table.schema entry }

/-- Forget a schema and its tables; whether it was remembered is returned. -/
def forgetSchema (c : DefinitionCache) (schema : String) : Bool × DefinitionCache :=
  (c.hasSchema schema, { c with schemas := c.schemas.erase (Text.lowercase schema) })

/-- Forget a definition, which is returned if there was one. -/
def forgetTable (c : DefinitionCache) (schema table : String) : Option Table × DefinitionCache :=
  (c.table? schema table,
    { c with schemas := c.schemas.modify (Text.lowercase schema) fun entry =>
        { entry with tables := entry.tables.erase (Text.lowercase table) } })

/-- A remembered definition, or else the loaded one, which is then remembered. -/
def getOrLoad {ε : Type} (c : DefinitionCache) (schema table : String)
    (load : Unit → Except ε (Option Table)) : Except ε (Option Table × DefinitionCache) :=
  match c.table? schema table with
  | some found => .ok (some found, c)
  | none =>
    match load () with
    | .error e => .error e
    | .ok none => .ok (none, c)
    | .ok (some loaded) => .ok (some loaded, c.addTable loaded)

end DefinitionCache
end DocumentQuery
