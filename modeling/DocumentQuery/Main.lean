import DocumentQuery.CommandLine.Execution
import DocumentQuery.Session.Registry
import DocumentQuery.Store.Scripted

namespace DocumentQuery

/-!
# The program

The arguments are parsed, a connection is opened, the command is executed and its text is
printed.  The program itself comes with a store that has no tables.
-/

/-- The message about wrong arguments, if there is one besides the explanation. -/
def CommandLine.UsageError.message : UsageError → String
  | unknownArgument => "unknown argument"
  | tooManyValues => "the option takes no value"
  | invalidValue => "invalid or missing value"
  | repeatedArgument => "the option is given more than once"
  | malformedNumber => "the value is not a number"
  | missingTable => "the name of a table is missing"
  | missingCommand => "a command is missing"
  | unknownCommand => "unknown command"
  | helpRequested => ""
  | versionRequested => ""
  | nothingGiven => ""

def usage : String :=
  "Usage: [OPTIONS] describe|find|count|version|help\n" ++
    "  -d, --database FILE   database file\n" ++
    "  -c, --config FILE     configuration file\n" ++
    "  -s, --schema NAME     schema of the table\n" ++
    "  -f, --format FORMAT   text or json\n" ++
    "      --readonly        open the database for reading only\n"

def loadConfig (path : String) : IO (Except ConfigError Config) := do
  match ← (IO.FS.readFile path).toBaseIO with
  | .ok text => pure (Config.ofFileText text)
  | .error (.noFileOrDirectory ..) => pure (.error (.notFound path))
  | .error e => pure (.error (.unreadable (toString e)))

/-- The drivers of the program: the embedded store, which has no tables. -/
def drivers : Registry Script :=
  Registry.register {} (.embedded fun config =>
    Connection.start config Script.store { version := .ok "none" })

def fail (message : String) : IO UInt32 := do
  IO.eprint (CommandLine.errorLine false message)
  pure 1

/-- Execute the call that the arguments make. -/
def runInvocation (i : CommandLine.Invocation) : IO UInt32 := do
  match ← i.configWith loadConfig with
  | .error e => fail ("Failed to load connection config: " ++ e.message)
  | .ok config =>
    match drivers.connect Dialect.sqlite.name config with
    | .error e => fail ("Failed to open database: " ++ e.message)
    | .ok connection =>
      match ((CommandLine.execute false i).run connection).1 with
      | .error e => fail e.message
      | .ok (.error message) => fail message
      | .ok (.ok text) =>
        IO.print text
        pure 0

end DocumentQuery

def main (args : List String) : IO UInt32 := do
  match DocumentQuery.CommandLine.parse args with
  | .ok invocation => DocumentQuery.runInvocation invocation
  | .error .versionRequested =>
    IO.println DocumentQuery.CommandLine.programVersion
    pure 0
  | .error .helpRequested =>
    IO.print DocumentQuery.usage
    pure 0
  | .error .nothingGiven =>
    IO.eprint DocumentQuery.usage
    pure 2
  | .error e =>
    IO.eprintln e.message
    pure 2
