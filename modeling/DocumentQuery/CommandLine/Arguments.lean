import DocumentQuery.Config
import DocumentQuery.Decimal.Reading
import DocumentQuery.Query.Basic
import DocumentQuery.Table.Name

namespace DocumentQuery
namespace CommandLine

/-!
# Arguments

The arguments of a call are options, which may stand before or after the command, the name
of a command, and what belongs to it.  An option with a value is written `--name value`,
`--name=value`, `-n value`, `-nvalue` or `-n=value`; after `--` everything is a plain
argument.  A value is looked at when the next option or argument settles that it is
complete, which decides which of two mistakes is reported.
-/

inductive Format where
  | text
  | json
deriving Repr, DecidableEq

def Format.word : Format → String
  | .text => "text"
  | .json => "json"

inductive Command where
  | describe (table : String)
  | find (table : String) (filter? : Option String) (sorts : List String)
      (limit? : Option UInt64) (offset : UInt64)
  | count (table : String) (filter? : Option String)
  | version
deriving Repr, DecidableEq

/-- A call with all of its options. -/
structure Invocation where
  database? : Option String
  config? : Option String
  schema : String
  format : Format
  readOnly : Bool
  command : Command
deriving Repr, DecidableEq

/-- What is wrong with the arguments, or what they ask for instead of a command. -/
inductive UsageError where
  | unknownArgument
  | tooManyValues
  | invalidValue
  | repeatedArgument
  | malformedNumber
  | missingTable
  | missingCommand
  | unknownCommand
  | helpRequested
  | versionRequested
  | nothingGiven
deriving Repr, DecidableEq

inductive Opt where
  | database
  | config
  | schema
  | format
  | readOnly
  | filter
  | sort
  | limit
  | offset
  | help
  | version
deriving Repr, DecidableEq

namespace Opt

def long : Opt → String
  | .database => "database"
  | .config => "config"
  | .schema => "schema"
  | .format => "format"
  | .readOnly => "readonly"
  | .filter => "filter"
  | .sort => "sort"
  | .limit => "limit"
  | .offset => "offset"
  | .help => "help"
  | .version => "version"

/-- The letter for an option, if it has one. -/
def short? : Opt → Option Char
  | .database => some 'd'
  | .config => some 'c'
  | .schema => some 's'
  | .format => some 'f'
  | .limit => some 'l'
  | .help => some 'h'
  | .version => some 'V'
  | _ => none

def takesValue : Opt → Bool
  | .readOnly => false
  | .help => false
  | .version => false
  | _ => true

def isRepeatable : Opt → Bool
  | .sort => true
  | _ => false

end Opt

/-- Where options are given: before a command, or after the name of one. -/
inductive Level where
  | top
  | describe
  | find
  | count
  | version
deriving Repr, DecidableEq

namespace Level

/-- The options that may be given at every level. -/
def sharedOptions : List Opt :=
  [.database, .config, .schema, .format, .readOnly, .help]

/-- The options that may be given at a level. -/
def options : Level → List Opt
  | .top => sharedOptions ++ [.version]
  | .find => sharedOptions ++ [.filter, .sort, .limit, .offset]
  | .count => sharedOptions ++ [.filter]
  | _ => sharedOptions

/-- The number of plain arguments at a level. -/
def arity : Level → Nat
  | .describe => 1
  | .find => 1
  | .count => 1
  | _ => 0

def ofCommand? (name : String) : Option Level :=
  if name = "describe" then some .describe
  else if name = "find" then some .find
  else if name = "count" then some .count
  else if name = "version" then some .version
  else none

end Level

def helpCommand : String := "help"

inductive Setting where
  | flag
  | text (s : String)
  | format (f : Format)
  | number (n : UInt64)
deriving Repr, DecidableEq

/-- The value that a text gives to an option. -/
def setting (opt : Opt) (value : String) : Except UsageError Setting :=
  match opt with
  | .database => if value.isEmpty then .error .invalidValue else .ok (.text value)
  | .config => if value.isEmpty then .error .invalidValue else .ok (.text value)
  | .format =>
    if value = "text" then .ok (.format .text)
    else if value = "json" then .ok (.format .json)
    else .error .invalidValue
  | .limit => number
  | .offset => number
  | _ => .ok (.text value)
where
  number : Except UsageError Setting :=
    match Decimal.readUInt64 value.toList with
    | some n => .ok (.number n)
    | none => .error .malformedNumber

/-- What has been read at a level.  An option without its value yet is `awaited`; an option
whose value has been read but not looked at is `unsettled`. -/
structure Reading where
  given : List (Opt × Setting) := []
  awaited? : Option Opt := none
  unsettled? : Option (Opt × String) := none
  plain : List String := []
  onlyPlain : Bool := false
deriving Repr

namespace Reading

def has (r : Reading) (opt : Opt) : Bool :=
  r.given.any fun entry => entry.1 = opt

def give (r : Reading) (opt : Opt) (value : Except UsageError Setting) :
    Except UsageError Reading :=
  if r.has opt && !opt.isRepeatable then .error .repeatedArgument
  else do
    let value ← value
    pure { r with given := r.given ++ [(opt, value)] }

/-- Settle the option that was read last. -/
def settle (r : Reading) : Except UsageError Reading :=
  match r.awaited?, r.unsettled? with
  | some _, _ => .error .invalidValue
  | none, some (opt, value) => { r with unsettled? := none }.give opt (setting opt value)
  | none, none => .ok r

/-- An option without a value. -/
def giveFlag (r : Reading) (opt : Opt) : Except UsageError Reading := do
  let r ← r.settle
  match opt with
  | .help => .error .helpRequested
  | .version => .error .versionRequested
  | opt => r.give opt (.ok .flag)

/-- An option with a value, which may follow as the next argument. -/
def giveOption (r : Reading) (opt : Opt) (value? : Option String) :
    Except UsageError Reading := do
  let r ← r.settle
  match value? with
  | some value => r.give opt (setting opt value)
  | none => pure { r with awaited? := some opt }

/-- The letters after a single hyphen: flags, up to an option that takes the rest as its
value. -/
def readLetters (level : Level) : Reading → List Char → Except UsageError Reading
  | r, [] => .ok r
  | r, c :: rest =>
    match level.options.find? fun opt => opt.short? == some c with
    | none => .error .unknownArgument
    | some opt =>
      if opt.takesValue then
        match rest with
        | [] => r.giveOption opt none
        | '=' :: value => r.giveOption opt (some (String.ofList value))
        | value => r.giveOption opt (some (String.ofList value))
      else do
        let r ← r.giveFlag opt
        readLetters level r rest

/-- The name after two hyphens, with a value after an equals sign. -/
def readLong (level : Level) (r : Reading) (text : List Char) : Except UsageError Reading :=
  let (name, value?) := match Text.splitAtFirst '=' text with
    | some (name, value) => (String.ofList name, some (String.ofList value))
    | none => (String.ofList text, none)
  match level.options.find? fun opt => opt.long == name with
  | none => .error .unknownArgument
  | some opt =>
    if opt.takesValue then r.giveOption opt value?
    else
      match value? with
      | some _ => .error .tooManyValues
      | none => r.giveFlag opt

def readPlain (level : Level) (r : Reading) (arg : String) : Except UsageError Reading :=
  if r.plain.length < level.arity then do
    let r ← r.settle
    pure { r with plain := r.plain ++ [arg] }
  else if level = .top then
    let isCommand := (Level.ofCommand? arg).isSome || arg = helpCommand
    .error (if r.onlyPlain && isCommand then .unknownArgument else .unknownCommand)
  else .error .unknownArgument

/-- An argument that is no command. -/
def readArgument (level : Level) (r : Reading) (arg : String) : Except UsageError Reading :=
  if r.onlyPlain then r.readPlain level arg
  else
    match arg.toList with
    | ['-', '-'] => .ok { r with onlyPlain := true }
    | '-' :: '-' :: text => r.readLong level text
    | '-' :: c :: letters => r.readLetters level (c :: letters)
    | _ =>
      match r.awaited? with
      | some opt => .ok { r with awaited? := none, unsettled? := some (opt, arg) }
      | none => r.readPlain level arg

end Reading

/-- Read the arguments after the name of a command. -/
def readCommand (level : Level) : Reading → List String → Except UsageError Reading
  | r, [] => do
    let r ← r.settle
    if r.plain.length < level.arity then .error .missingTable else pure r
  | r, arg :: rest => do
    let r ← r.readArgument level arg
    readCommand level r rest

/-- The names of commands after `help`: at most one, and one that exists. -/
def readHelp : List String → UsageError
  | [] => .helpRequested
  | [name] =>
    if (Level.ofCommand? name).isSome || name = helpCommand then .helpRequested
    else .unknownCommand
  | _ => .unknownCommand

/-- Read arguments up to the name of a command and beyond: what is given before it, which
command it is, and what is given after it. -/
def readTop : Reading → List String → Except UsageError (Reading × Level × Reading)
  | r, [] => do
    let r ← r.settle
    .error (if r.given.isEmpty then .nothingGiven else .missingCommand)
  | r, arg :: rest =>
    let command? :=
      if r.onlyPlain || r.awaited?.isSome then none
      else if arg = helpCommand then some none
      else (Level.ofCommand? arg).map some
    match command? with
    | some none => .error (readHelp rest)
    | some (some level) => do
      let inner ← readCommand level {} rest
      let outer ← r.settle
      pure (outer, level, inner)
    | none => do
      let r ← r.readArgument .top arg
      readTop r rest

/-- The value of an option: after the command if it is given there, and before it
otherwise. -/
def valueOf? (outer inner : Reading) (opt : Opt) : Option Setting :=
  let find (r : Reading) := (r.given.find? fun entry => entry.1 = opt).map Prod.snd
  (find inner).or (find outer)

def Setting.text? : Setting → Option String
  | .text s => some s
  | _ => none

def Setting.number? : Setting → Option UInt64
  | .number n => some n
  | _ => none

def Setting.format? : Setting → Option Format
  | .format f => some f
  | _ => none

/-- The command at a level with its options. -/
def commandOf (level : Level) (r : Reading) : Command :=
  let table := r.plain.headD ""
  let value? (opt : Opt) := (r.given.find? fun entry => entry.1 = opt).map Prod.snd
  let filter? := (value? .filter).bind Setting.text?
  match level with
  | .describe => .describe table
  | .find =>
    let sorts := (r.given.filter fun entry => entry.1 = .sort).filterMap fun entry =>
      entry.2.text?
    .find table filter? sorts ((value? .limit).bind Setting.number?)
      (((value? .offset).bind Setting.number?).getD 0)
  | .count => .count table filter?
  | _ => .version

/-- The call that arguments make, without the name of the program. -/
def parse (args : List String) : Except UsageError Invocation := do
  let (outer, level, inner) ← readTop {} args
  let value? := valueOf? outer inner
  pure {
    database? := (value? .database).bind Setting.text?
    config? := (value? .config).bind Setting.text?
    schema := ((value? .schema).bind Setting.text?).getD Name.defaultSchema
    format := ((value? .format).bind Setting.format?).getD .text
    readOnly := (value? .readOnly).isSome
    command := commandOf level inner }

/-- The configuration of a call: from a configuration file if one is named, and else of the
named database or one in memory. -/
def Invocation.configWith {m : Type → Type} [Monad m] (i : Invocation)
    (load : String → m (Except ConfigError Config)) : m (Except ConfigError Config) := do
  let config ← match i.config?, i.database? with
    | some path, _ => load path
    | none, some database => pure (.ok { database })
    | none, none => pure (.ok .inMemory)
  pure (config.map fun config => if i.readOnly then config.readOnly else config)

/-- The column and the direction of a sort argument: a column name, with a direction after
a colon if it is not ascending. -/
def parseSort (arg : String) : Except QueryError (String × Direction) := do
  let (column, direction) ← match Text.splitAtFirst ':' arg.toList with
    | none => pure (arg, Direction.ascending)
    | some (column, direction) =>
      let word := Text.lowercase (String.ofList direction)
      let column := String.ofList column
      if word = "asc" then pure (column, Direction.ascending)
      else if word = "desc" then pure (column, Direction.descending)
      else reject (.invalidDirection (String.ofList direction))
  require (!column.isEmpty) .emptySortColumn
  pure (column, direction)

end CommandLine
end DocumentQuery
