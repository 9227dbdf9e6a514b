import DocumentQuery.Json.Writer
import DocumentQuery.Table.Column

namespace DocumentQuery

/-!
# Errors

Every way in which an operation can be refused or fail is a cause of its own; the wording
is given by one function for each kind of cause.  A `Fault` is found in the arguments of an
operation before the store is asked for anything but definitions.
-/

/-- What is wrong with the arguments of an operation. -/
inductive Fault where
  | filterNotObject
  | invalidColumnName (column : String)
  | noOperator (column : String)
  | scalarExpected (operator : String)
  | arrayExpected (operator : String)
  | invalidElement (value : Json) (type : ColumnType)
  | changesNotObject
  | notOneOperator
  | unsupportedOperator (operator : String) (type : ColumnType) (column : String)
  | numberExpected (column : String) (value : Json)
  | nothingToUpdate
  | noColumn (table column : String)
  | noJoinColumn (table column : String)
  | severalJoins
  | unresolvedTarget
  | unknownColumn (column : String)
  | emptyGroup
  | invalidAlias (name : String)
  | starNotSupported (function : String)
  | invalidIdentifier (kind name : String)
  | tableWithoutColumns (table : String)
  | indexWithoutColumns (index : String)
  | invalidReference (reference : String)
  | invalidType (type : String)
  | noTable (name : String)
  | unknownDriver (name : String)
  | invalidDirection (direction : String)
  | emptySortColumn
deriving Repr, BEq

def Fault.message : Fault → String
  | filterNotObject => "Filter must be an object"
  | invalidColumnName column => "Invalid column name '" ++ column ++ "'"
  | noOperator column => "No operator given for column '" ++ column ++ "'"
  | scalarExpected operator => "Operator " ++ operator ++ " expects a scalar value"
  | arrayExpected operator => "Operator " ++ operator ++ " expects an array"
  | invalidElement value type =>
    "Value " ++ value.compact ++ " is not a valid " ++ type.display ++ " element"
  | changesNotObject => "Update changes must be an object"
  | notOneOperator => "An update expression must hold exactly one operator"
  | unsupportedOperator operator type column =>
    "Operator " ++ operator ++ " is not supported on " ++ type.display ++ " column '" ++ column ++
      "'"
  | numberExpected column value =>
    "Column '" ++ column ++ "' expects a numeric operand, got " ++ value.compact
  | nothingToUpdate => "Nothing to update"
  | noColumn table column => "Table '" ++ table ++ "' has no column '" ++ column ++ "'"
  | noJoinColumn table column => "Table '" ++ table ++ "' has no join column '" ++ column ++ "'"
  | severalJoins => "Only one join per query is supported"
  | unresolvedTarget => "Join target is not resolved"
  | unknownColumn column => "Unknown column '" ++ column ++ "'"
  | emptyGroup => "Group by needs columns or aggregations"
  | invalidAlias name => "Invalid aggregation alias '" ++ name ++ "'"
  | starNotSupported function => function ++ "(*) is not supported"
  | invalidIdentifier kind name =>
    kind ++ " name '" ++ name ++ "' is not a valid identifier"
  | tableWithoutColumns table => "Table '" ++ table ++ "' needs at least one column"
  | indexWithoutColumns index => "Index '" ++ index ++ "' needs at least one column"
  | invalidReference reference =>
    "Invalid reference '" ++ reference ++ "', expected table.column or schema.table.column"
  | invalidType type => "Invalid column type '" ++ type ++ "'"
  | noTable name => "Table doesn't exist: " ++ name
  | unknownDriver name => "Unknown driver: " ++ name
  | invalidDirection direction => "Invalid sort direction '" ++ direction ++ "'"
  | emptySortColumn => "Sort column is empty"

/-- What a store was doing when it failed. -/
inductive StoreFailure where
  | connection
  | query
  | schema
  | transaction
deriving Repr, DecidableEq, Inhabited

def StoreFailure.word : StoreFailure → String
  | .connection => "Connection"
  | .query => "Query"
  | .schema => "Schema"
  | .transaction => "Transaction"

/-- A failure of a store, with the text it gives for it. -/
structure StoreError where
  failure : StoreFailure
  text : String
deriving Repr, DecidableEq, Inhabited

def StoreError.message (e : StoreError) : String :=
  e.failure.word ++ " error: " ++ e.text

/-- What is wrong with a configuration file. -/
inductive ConfigError where
  | notFound (path : String)
  | unreadable (text : String)
  | malformed
deriving Repr, DecidableEq

def ConfigError.message : ConfigError → String
  | .notFound path => "Config file not found: " ++ path
  | .unreadable text => "Failed to read config: " ++ text
  | .malformed => "Invalid config format: not a configuration"

/-- Why an operation did not succeed. -/
inductive QueryError where
  | invalidArgument (fault : Fault)
  | unknownOperator (operator : String)
  | targetNotFound (schema table : String)
  | store (error : StoreError)
  | notConnected
  | config (error : ConfigError)
deriving Repr, BEq

def QueryError.message : QueryError → String
  | .invalidArgument fault => "Invalid argument: " ++ fault.message
  | .unknownOperator operator => "Unknown operator: " ++ operator
  | .targetNotFound schema table => "Target table doesn't exist: " ++ schema ++ "." ++ table
  | .store error => "Store execution error: " ++ error.message
  | .notConnected => "Not connected"
  | .config error => "Configuration error: " ++ error.message

def reject {α : Type} (fault : Fault) : Except QueryError α :=
  .error (.invalidArgument fault)

/-- Refuse an operation unless a condition holds. -/
def require (condition : Bool) (fault : Fault) : Except QueryError Unit :=
  if condition then .ok () else reject fault

def orReject {α : Type} (value? : Option α) (fault : Fault) : Except QueryError α :=
  match value? with
  | some value => .ok value
  | none => reject fault

end DocumentQuery
