import DocumentQuery.Error
import DocumentQuery.Sql.Piece
import DocumentQuery.Table.Name

namespace DocumentQuery
namespace Sql

/-!
# Definitions

Statements that create and drop tables and indexes.  All names in them are identifiers, the
type of a column is one of the known ones or consists of harmless characters, and only
defaults and checks are expressions in the words of the caller.
-/

def checkIdentifier (kind name : String) : Except QueryError Unit :=
  require (Name.isIdentifier name) (.invalidIdentifier kind name)

/-- A column of a table to be created. -/
structure ColumnDefinition where
  name : String
  type : String
  primaryKey : Bool := false
  unique : Bool := false
  required : Bool := false
  default? : Option String := none
  check? : Option String := none
  references? : Option String := none
deriving Repr, DecidableEq, Inhabited

def ColumnDefinition.ofTree? (tree : Json.Tree) : Option ColumnDefinition := do
  let fields ← tree.fields? ["name", "type", "primary_key", "unique", "required",
    "default_value", "check", "references"]
  let name ← fields.required "name" Json.Tree.text?
  let type ← fields.required "type" Json.Tree.text?
  let primaryKey ← fields.withDefault "primary_key" false Json.Tree.bool?
  let unique ← fields.withDefault "unique" false Json.Tree.bool?
  let required ← fields.withDefault "required" false Json.Tree.bool?
  let default? ← fields.withDefault "default_value" none (Json.Tree.orNull? Json.Tree.text?)
  let check? ← fields.withDefault "check" none (Json.Tree.orNull? Json.Tree.text?)
  let references? ← fields.withDefault "references" none (Json.Tree.orNull? Json.Tree.text?)
  pure { name, type, primaryKey, unique, required, default?, check?, references? }

def ColumnDefinition.toJson (c : ColumnDefinition) : Json :=
  .ofMembers [("name", .string c.name), ("type", .string c.type),
    ("primary_key", .bool c.primaryKey), ("unique", .bool c.unique),
    ("required", .bool c.required), ("default_value", Json.ofOption .string c.default?),
    ("check", Json.ofOption .string c.check?),
    ("references", Json.ofOption .string c.references?)]

/-- A character of an unknown type name that may stand in a statement. -/
def isTypeChar (c : Char) : Bool :=
  Name.isNameChar c || c = ' ' || c = '(' || c = ')' || c = ','

/-- The type under which a column of a logical type is declared. -/
def declaredType (logical : String) : Except QueryError String :=
  match ColumnType.ofDeclaration logical with
  | .other name => do
    require (!name.isEmpty && name.toList.all isTypeChar) (.invalidType logical)
    pure name
  | type => .ok type.declaration

/-- The column that another column refers to, in a table of the same or another schema. -/
def referencesClause (schema reference : String) : Except QueryError (List Piece) := do
  let (schema, table, column) ←
    match (Text.splitAll '.' reference.toList).map String.ofList with
    | [table, column] => .ok (schema, table, column)
    | [schema, table, column] => .ok (schema, table, column)
    | _ => reject (.invalidReference reference)
  checkIdentifier "Schema" schema
  checkIdentifier "Table" table
  checkIdentifier "Column" column
  pure [.word " REFERENCES ", .name (Name.qualified schema table), .word "(", .name column,
    .word ") ON DELETE CASCADE ON UPDATE CASCADE"]

/-- A keyword with an expression in parentheses, if there is one that is not empty. -/
def expressionClause (keyword : String) : Option String → List Piece
  | some expression =>
    if expression.isEmpty then [] else [.word (" " ++ keyword ++ "("), .word expression, .word ")"]
  | none => []

/-- Some words, if a condition holds. -/
def wordsIf (condition : Bool) (words : String) : List Piece :=
  if condition then [.word words] else []

/-- The type of a column is the automatic sequence, in any letter case. -/
def isSequence (type : String) : Bool :=
  (Text.trim type.toList).map Text.smallLatin == "sequence".toList

def columnClause (schema : String) (c : ColumnDefinition) : Except QueryError (List Piece) := do
  checkIdentifier "Column" c.name
  let typed ←
    if isSequence c.type then pure [Piece.word " integer PRIMARY KEY AUTOINCREMENT"]
    else do
      let type ← declaredType c.type
      pure (.word (" " ++ type) :: wordsIf c.primaryKey " PRIMARY KEY")
  let references ← match c.references? with
    | some reference => referencesClause schema reference
    | none => pure []
  pure (.name c.name :: typed ++ wordsIf (c.unique && !c.primaryKey) " UNIQUE" ++
    wordsIf c.required " NOT NULL" ++ expressionClause "DEFAULT" c.default? ++
    expressionClause "CHECK" c.check? ++ references)

def createTable (schema table : String) (columns : List ColumnDefinition)
    (temporary ifNotExists : Bool) : Except QueryError (List Piece) := do
  checkIdentifier "Schema" schema
  checkIdentifier "Table" table
  require (!columns.isEmpty) (.tableWithoutColumns table)
  let clauses ← columns.mapM (columnClause schema)
  pure (.word "CREATE " :: wordsIf temporary "TEMPORARY " ++ .word "TABLE " ::
    wordsIf ifNotExists "IF NOT EXISTS " ++ .name (Name.qualified schema table) ::
    .word "(" :: separated ", " clauses ++ [.word ")"])

def dropTable (schema table : String) : List Piece :=
  [.word "DROP TABLE IF EXISTS ", .name (Name.qualified schema table)]

def createIndex (schema table index : String) (columns : List String)
    (unique ifNotExists : Bool) : Except QueryError (List Piece) := do
  checkIdentifier "Index" index
  checkIdentifier "Table" table
  require (!columns.isEmpty) (.indexWithoutColumns index)
  columns.forM (checkIdentifier "Column")
  pure (.word "CREATE " :: wordsIf unique "UNIQUE " ++ .word "INDEX " ::
    wordsIf ifNotExists "IF NOT EXISTS " ++ .name (Name.qualified schema index) ::
    .word " ON " :: .name (Name.qualified schema table) :: .word "(" ::
    separated ", " (columns.map fun column => [.name column]) ++ [.word ")"])

def dropIndex (schema index : String) : List Piece :=
  [.word "DROP INDEX IF EXISTS ", .name (Name.qualified schema index)]

/-- The statement that looks an index up by its name in the store, which is bound to it. -/
def findIndex (schema index : String) : Statement :=
  ⟨[.word "SELECT tbl_name FROM sqlite_master WHERE type = ", .literal "index",
    .word " and name = ", .param 1], [.text (Name.qualified schema index)]⟩

end Sql
end DocumentQuery
