import ComponentSchema.Files.Path

/-!
The arguments of the command line.  An option keeps what it was given until the next known argument,
or the end, settles it; an argument nobody knows is reported before anything that is not settled.
-/

namespace ComponentSchema

/-- Why there is nothing to run. -/
inductive UsageReport where
  | help
  | version
  /-- No command was given. -/
  | helpForMissing
  | missingRequired
  | invalidCommand
  | unknownArgument
  /-- An option without a value, or with an empty path. -/
  | invalidValue
  /-- An argument that may be given once was given twice. -/
  | repeatedArgument
  /-- A value for an argument that takes none. -/
  | unneededValue
deriving DecidableEq, Repr

def UsageReport.exitCode : UsageReport → Nat
  | .help | .version => 0
  | _ => 2

/-- How the program is called. -/
def usageLine : String :=
  "usage: schemagen generate --types <TYPES> [--config <CONFIG>] [--reset] " ++
    "[--additional-schema-compiler-args <ARGS>]"

def UsageReport.message : UsageReport → String
  | .help => usageLine
  | .version => "schemagen 0.4.2"
  | .helpForMissing => usageLine
  | .missingRequired => "error: a required argument is missing\n" ++ usageLine
  | .invalidCommand => "error: unknown command\n" ++ usageLine
  | .unknownArgument => "error: unexpected argument\n" ++ usageLine
  | .invalidValue => "error: an argument needs a value\n" ++ usageLine
  | .repeatedArgument => "error: an argument is given twice\n" ++ usageLine
  | .unneededValue => "error: a value for an argument that takes none\n" ++ usageLine

/-- What one generation pass is asked to do. -/
structure GenerateArguments where
  /-- The file of settings, if one is named. -/
  config : Option Path
  /-- The file of the type manifest. -/
  types : Path
  /-- Whether to start from a fresh ledger. -/
  reset : Bool
  /-- Arguments for the compiler in place of those in the settings. -/
  additionalArgs : Option String
deriving DecidableEq, Repr

namespace Arguments

/-- The options that take a value. -/
inductive Key where
  | config
  | types
  | additionalArgs
deriving DecidableEq, Repr

/-- How an option is written. -/
def Key.text : Key → String
  | .config => "config"
  | .types => "types"
  | .additionalArgs => "additional-schema-compiler-args"

def Key.parse? (name : List Char) : Option Key :=
  [Key.config, .types, .additionalArgs].find? fun key => key.text.toList == name

/-- Whether an option takes whatever follows it, even what looks like another argument. -/
def Key.takesAnything : Key → Bool
  | .additionalArgs => true
  | _ => false

/-- What was given so far. -/
structure Given where
  config : Option String := none
  types : Option String := none
  additionalArgs : Option String := none
  reset : Bool := false
  /-- An option that is not settled, with its value if it has got one. -/
  pending : Option (Key × Option String) := none
deriving DecidableEq, Repr

def Given.value? (given : Given) : Key → Option String
  | .config => given.config
  | .types => given.types
  | .additionalArgs => given.additionalArgs

def Given.put (given : Given) (value : String) : Key → Given
  | .config => { given with config := some value }
  | .types => { given with types := some value }
  | .additionalArgs => { given with additionalArgs := some value }

/-- Settles an option with its value: it may be given once, and a path must not be empty. -/
def Given.assign (given : Given) (key : Key) (value : String) : Except UsageReport Given :=
  if (given.value? key).isSome then .error .repeatedArgument
  else if key ≠ .additionalArgs ∧ value.isEmpty then .error .invalidValue
  else .ok (given.put value key)

def Given.settle (given : Given) : Except UsageReport Given :=
  match given.pending with
  | none => .ok given
  | some (_, none) => .error .invalidValue
  | some (key, some value) => { given with pending := none }.assign key value

/-- The flag that asks for a fresh start. -/
def Given.takeReset (given : Given) : Except UsageReport Given := do
  let given ← given.settle
  if given.reset then throw .repeatedArgument
  pure { given with reset := true }

/-- A known option with the value that stands behind an equals sign, if one does. -/
def Given.takeOption (given : Given) (key : Key) (value : Option String) :
    Except UsageReport Given := do
  match value with
  | none => pure { ← given.settle with pending := some (key, none) }
  | some value => (← given.settle).assign key value

/-- An argument that is not a value: one with two hyphens, or one with a single hyphen. -/
def Given.takeFlag (given : Given) (text : List Char) : Except UsageReport Given :=
  match text with
  | '-' :: '-' :: long =>
    let name := long.takeWhile (· ≠ '=')
    let value := (long.drop name.length).tail
    let hasValue := name.length < long.length
    match Key.parse? name with
    | some key => given.takeOption key (if hasValue then some (String.ofList value) else none)
    | none =>
      if name = "reset".toList then
        if hasValue then .error .unneededValue else given.takeReset
      else if name = "help".toList then
        if hasValue then .error .unneededValue else given.settle.bind fun _ => .error .help
      else .error .unknownArgument
  | '-' :: 'h' :: _ => given.settle.bind fun _ => .error .help
  | _ => .error .unknownArgument

/-- Whether an argument is written like an option. -/
def isFlag (text : List Char) : Bool := text.head? == some '-' && text.length > 1

/-- The next argument, as long as options are looked for. -/
def Given.take (given : Given) (arg : String) : Except UsageReport Given :=
  match given.pending with
  | some (key, none) =>
    if key.takesAnything ∨ !isFlag arg.toList then
      .ok { given with pending := some (key, some arg) }
    else given.takeFlag arg.toList
  | _ => if isFlag arg.toList then given.takeFlag arg.toList else .error .unknownArgument

/-- Takes all arguments; behind two hyphens by themselves nothing may follow. -/
def Given.takeAll (given : Given) : List String → Except UsageReport Given
  | [] => given.settle
  | arg :: rest => do
    let awaiting := given.pending.any fun pending => pending.1.takesAnything && pending.2.isNone
    if arg = "--" ∧ !awaiting then
      if rest.isEmpty then given.settle else throw .unknownArgument
    else takeAll (← given.take arg) rest

/-- Reads the arguments of a generation pass.  The file of settings may come from the environment
where it is not given. -/
def generate (args : List String) (configDefault : Option String) :
    Except UsageReport GenerateArguments := do
  let given ← ({} : Given).takeAll args
  let given ←
    match given.config, configDefault with
    | none, some value => given.assign .config value
    | _, _ => pure given
  match given.types with
  | none => throw .missingRequired
  | some types =>
    pure { config := given.config, types, reset := given.reset,
           additionalArgs := given.additionalArgs }

def commands : List String := ["generate", "help"]

def help : List String → UsageReport
  | [] => .help
  | [command] => if commands.contains command then .help else .invalidCommand
  | _ => .invalidCommand

def unknownFirst (text : List Char) : UsageReport :=
  match text with
  | '-' :: '-' :: long =>
    let name := long.takeWhile (· ≠ '=')
    let hasValue := name.length < long.length
    if name = "help".toList then if hasValue then .unneededValue else .help
    else if name = "version".toList then if hasValue then .unneededValue else .version
    else .unknownArgument
  | '-' :: 'h' :: _ => .help
  | '-' :: 'V' :: _ => .version
  | '-' :: _ :: _ => .unknownArgument
  | _ => .invalidCommand

/-- The report on what stands behind two hyphens, where no command is looked for. -/
def afterHyphens : List String → UsageReport
  | [] => .helpForMissing
  | arg :: _ => if commands.contains arg then .unknownArgument else .invalidCommand

/-- Reads a whole command line, without the name of the program. -/
def parse (args : List String) (configDefault : Option String) :
    Except UsageReport GenerateArguments :=
  match args with
  | [] => .error .helpForMissing
  | first :: rest =>
    if first = "generate" then generate rest configDefault
    else if first = "help" then .error (help rest)
    else if first = "--" then .error (afterHyphens rest)
    else .error (unknownFirst first.toList)

end Arguments

end ComponentSchema
