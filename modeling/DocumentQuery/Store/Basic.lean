import DocumentQuery.Error
import DocumentQuery.Sql.Piece
import DocumentQuery.Value.Basic

namespace DocumentQuery

/-!
# Stores

A store executes statements.  Everything that is asked of it is one of eight calls, each
with its own kind of answer, and a call may fail.  A store is given by how it answers and
how its state changes; the library knows nothing else about it.
-/

/-- The languages that stores understand. -/
inductive Dialect where
  | sqlite
deriving Repr, DecidableEq

def Dialect.name : Dialect → String
  | .sqlite => "sqlite"

/-- The dialect with a name, in any letter case. -/
def Dialect.ofName? (name : String) : Option Dialect :=
  let small := Text.lowercase name
  if small = "sqlite" || small = "sqlite3" then some .sqlite else none

/-- What a statement changed. -/
structure RunOutcome where
  affected : UInt64 := 0
  lastId? : Option Int64 := none
deriving Repr, DecidableEq, Inhabited

namespace RunOutcome

def toJson (o : RunOutcome) : Json :=
  .ofMembers [("affected_rows", .ofUInt64 o.affected),
    ("last_insert_id", Json.ofOption .ofInt64 o.lastId?)]

def ofTree? (tree : Json.Tree) : Option RunOutcome := do
  let fields ← tree.fields? ["affected_rows", "last_insert_id"]
  let affected ← fields.required "affected_rows" Json.Tree.uint64?
  let lastId? ← fields.optional "last_insert_id" Json.Tree.int64?
  pure { affected, lastId? }

end RunOutcome

/-- What is asked of a store. -/
inductive Call where
  | version
  | run (statement : Sql.Statement)
  | query (statement : Sql.Statement)
  | batch (pieces : List Sql.Piece)
  | begin
  | commit
  | rollback
  | describe (table : String)
deriving Repr

/-- The kind of answer to a call.  The description of a table that does not exist has no
columns. -/
def Call.Answer : Call → Type
  | .version => String
  | .run _ => RunOutcome
  | .query _ => List Row
  | .batch _ => Unit
  | .begin => Unit
  | .commit => Unit
  | .rollback => Unit
  | .describe _ => List StoredColumn

/-- A store, given by its answers. -/
structure Store (σ : Type) where
  answer : (call : Call) → σ → Except StoreError call.Answer × σ

end DocumentQuery
