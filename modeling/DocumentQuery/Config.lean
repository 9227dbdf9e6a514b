import DocumentQuery.Error
import DocumentQuery.Json.Fields

namespace DocumentQuery

/-!
# Configuration

A configuration says which database a connection opens and how.  It is kept as a JSON text.
-/

inductive OpenMode where
  | readOnly
  | readWrite
deriving Repr, DecidableEq, Inhabited

def OpenMode.word : OpenMode → String
  | .readOnly => "readonly"
  | .readWrite => "readwrite"

/-- The mode that a JSON text gives. -/
def OpenMode.ofTree? (tree : Json.Tree) : Option OpenMode :=
  tree.alternative?.bind fun word =>
    if word = "readonly" then some .readOnly
    else if word = "readwrite" then some .readWrite
    else none

/-- Which database is opened and how.  A missing database is created if `create` holds and
it is not opened for reading only. -/
structure Config where
  database : String
  mode : OpenMode := .readWrite
  create : Bool := true
deriving Repr, DecidableEq, Inhabited

namespace Config

def memoryDatabase : String := ":memory:"

def inMemory : Config :=
  { database := memoryDatabase }

def readOnly (c : Config) : Config :=
  { c with mode := .readOnly }

def isMemory (c : Config) : Bool :=
  c.database == memoryDatabase

def toJson (c : Config) : Json :=
  .ofMembers [("database", .string c.database), ("mode", .string c.mode.word),
    ("create", .bool c.create)]

def fileText (c : Config) : String :=
  c.toJson.pretty

def ofTree? (tree : Json.Tree) : Option Config := do
  let fields ← tree.fields? ["database", "mode", "create"]
  let database ← fields.required "database" Json.Tree.text?
  let mode ← fields.withDefault "mode" .readWrite OpenMode.ofTree?
  let create ← fields.withDefault "create" true Json.Tree.bool?
  pure { database, mode, create }

/-- The configuration in the text of a file. -/
def ofFileText (text : String) : Except ConfigError Config :=
  match (Json.tree? text).bind ofTree? with
  | some config => .ok config
  | none => .error .malformed

end Config
end DocumentQuery
