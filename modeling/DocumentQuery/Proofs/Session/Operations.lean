import DocumentQuery.Session.TableHandle

namespace DocumentQuery

/-!
# The operations on a connection

Everything that can be done with an open connection and the handles of its tables, as data.  What
holds of all operations, or along every run of them, is stated about these.
-/

/-- An operation with its arguments. -/
inductive Operation where
  | server
  | openSchema (name : String)
  | createSchema (name : String)
  | dropSchema (name : String)
  | findTable (schema table : String)
  | openTable (schema name : String)
  | hasTable (schema table : String) (columns : List String)
  | hasTables (schema : String) (tables : List String)
  | createTable (schema table : String) (columns : List Sql.ColumnDefinition)
      (temporary ifNotExists : Bool)
  | dropTable (schema table : String)
  | createIndex (schema table index : String) (columns : List String) (unique ifNotExists : Bool)
  | dropIndex (schema index : String)
  | findIndex (schema index : String)
  | hasIndex (schema index : String)
  | find (h : TableHandle) (q : Query)
  | findOne (h : TableHandle) (q : Query)
  | findAll (h : TableHandle) (q : Query)
  | count (h : TableHandle) (f : Filter)
  | insert (h : TableHandle) (row : Row) (returnId : Bool)
  | insertMany (h : TableHandle) (rows : List Row) (returnId : Bool)
  | update (h : TableHandle) (changes : Changes) (f : Filter)
  | remove (h : TableHandle) (f : Filter)
  | truncate (h : TableHandle)

namespace Operation

/-- What an operation returns. -/
def Result : Operation → Type
  | server => Server
  | openSchema _ => Schema
  | createSchema _ => Schema
  | dropSchema _ => Unit
  | findTable _ _ => Option Table
  | openTable _ _ => TableHandle
  | hasTable _ _ _ => Bool
  | hasTables _ _ => Bool
  | createTable _ _ _ _ _ => Unit
  | dropTable _ _ => Unit
  | createIndex _ _ _ _ _ _ => Unit
  | dropIndex _ _ => Unit
  | findIndex _ _ => Option String
  | hasIndex _ _ => Bool
  | find _ _ => ResultSet
  | findOne _ _ => Option Row
  | findAll _ _ => ResultSet
  | count _ _ => UInt64
  | insert _ _ _ => Option Int64
  | insertMany _ _ _ => List Int64
  | update _ _ _ => UInt64
  | remove _ _ => UInt64
  | truncate _ => UInt64

/-- Perform an operation on a connection. -/
def perform {σ : Type} : (operation : Operation) → Action σ operation.Result
  | server => Connection.serverInfo
  | openSchema name => Connection.schema name
  | createSchema name => Connection.createSchema name
  | dropSchema name => Connection.dropSchema name
  | findTable schema table => Connection.findTable schema table
  | openTable schema name => TableHandle.openTable schema name
  | hasTable schema table columns => Connection.hasTable schema table columns
  | hasTables schema tables => Connection.hasTables schema tables
  | createTable schema table columns temporary ifNotExists =>
    Connection.createTable schema table columns temporary ifNotExists
  | dropTable schema table => Connection.dropTable schema table
  | createIndex schema table index columns unique ifNotExists =>
    Connection.createIndex schema table index columns unique ifNotExists
  | dropIndex schema index => Connection.dropIndex schema index
  | findIndex schema index => Connection.findIndex schema index
  | hasIndex schema index => Connection.hasIndex schema index
  | find h q => h.find q
  | findOne h q => h.findOne q
  | findAll h q => h.findAll q
  | count h f => h.count f
  | insert h row returnId => h.insert row returnId
  | insertMany h rows returnId => h.insertMany rows returnId
  | update h changes f => h.update changes f
  | remove h f => h.remove f
  | truncate h => h.truncate

end Operation
end DocumentQuery
