import DocumentQuery.CommandLine.Arguments
import DocumentQuery.CommandLine.Report
import DocumentQuery.Session.TableHandle

namespace DocumentQuery
namespace CommandLine

/-!
# Commands

Each command is an action on a connection whose result is the text to print, or a message
about a filter that is no JSON.
-/

variable {σ : Type}

def programVersion : String := "0.1.0"

/-- The filter of a filter argument, if the argument is JSON. -/
def readFilter : Option String → Except String (Except QueryError Filter)
  | none => .ok (.ok .all)
  | some text =>
    match Json.read? text with
    | some json => .ok (Filter.ofJson json)
    | none => .error "Filter is not valid JSON"

def orderBySorts : Query → List String → Except QueryError Query
  | q, [] => .ok q
  | q, arg :: rest => do
    let (column, direction) ← parseSort arg
    orderBySorts (q.orderBy column direction) rest

def limitTo (limit? : Option UInt64) (offset : UInt64) (q : Query) : Query :=
  match limit? with
  | some count => q.limit count offset
  | none => if 0 < offset then q.offset offset else q

def showRows (color : Bool) (format : Format) (result : ResultSet) : String :=
  match format with
  | .json => line result.rowsJson.pretty
  | .text => rowsReport color result.rows

def showTable (color : Bool) (format : Format) (table : Table) : String :=
  match format with
  | .json => line table.toJson.pretty
  | .text => definition color table

def showCount (color : Bool) (format : Format) (table : Table) (n : UInt64) : String :=
  match format with
  | .json =>
    line (Json.ofMembers [("table", .string table.storeName), ("count", .ofUInt64 n)]).compact
  | .text => entry color table.storeName (String.ofList (Decimal.natural n.toNat))

def showVersion (color : Bool) (format : Format) (server : Server) : String :=
  match format with
  | .json =>
    line (Json.ofMembers [("version", .string programVersion), ("server", server.toJson)]).compact
  | .text =>
    entry color "version" programVersion ++ entry color Dialect.sqlite.name server.version ++
      entry color "host" server.host

def execute (color : Bool) (i : Invocation) : Action σ (Except String String) := do
  match i.command with
  | .version =>
    let server ← Connection.serverInfo
    pure (.ok (showVersion color i.format server))
  | .describe table =>
    let handle ← TableHandle.openTable i.schema table
    pure (.ok (showTable color i.format handle.table))
  | .find table filter? sorts limit? offset =>
    let handle ← TableHandle.openTable i.schema table
    match readFilter filter? with
    | .error message => pure (.error message)
    | .ok filter =>
      let filter ← Connection.check filter
      let q ← Connection.check (orderBySorts ({ filter } : Query) sorts)
      let result ← handle.find (limitTo limit? offset q)
      pure (.ok (showRows color i.format result))
  | .count table filter? =>
    let handle ← TableHandle.openTable i.schema table
    match readFilter filter? with
    | .error message => pure (.error message)
    | .ok filter =>
      let filter ← Connection.check filter
      let n ← handle.count filter
      pure (.ok (showCount color i.format handle.table n))

end CommandLine
end DocumentQuery
