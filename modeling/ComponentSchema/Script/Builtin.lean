import ComponentSchema.Script.Background
import ComponentSchema.Script.Condition
import ComponentSchema.Script.Printing
import ComponentSchema.Script.ReadLine
import ComponentSchema.Script.Signals
import ComponentSchema.Script.Tool.Permissions

/-!
The commands that a shell does itself and that run no other ones.  Each answers with its status.
-/

namespace ComponentSchema.Script

/-- A command that a shell does itself: what it does with its arguments. -/
abbrev Builtin := List Text → Action Nat

namespace Builtin

/-! ## Arguments -/

def printLine (line : Text) : Action Unit := Action.write 1 (line ++ ['\n'])

/-- Writes a line about what went wrong, without saying where. -/
def complain (line : Text) : Action Unit := Action.write 2 (line ++ ['\n'])

def number (text : Text) : Action Nat := do
  match Text.number? text with
  | some value =>
    if value < 2147483648 then pure value else Action.fail ("Illegal number: ".toList ++ text)
  | none => Action.fail ("Illegal number: ".toList ++ text)

/-- The letters of an argument as options; the rest of the argument or the next one belongs to a
letter that has a value. -/
def letters (plain valued : List Char) (rest : List Text) :
    Text → Action (List (Char × Text) × List Text)
  | [] => pure ([], rest)
  | letter :: more => do
    if plain.contains letter then
      let (given, rest) ← letters plain valued rest more
      pure ((letter, []) :: given, rest)
    else if valued.contains letter then
      if !more.isEmpty then pure ([(letter, more)], rest)
      else
        match rest with
        | value :: rest => pure ([(letter, value)], rest)
        | [] => Action.fail ("No arg for -".toList ++ letter :: " option".toList)
    else Action.fail ("Illegal option -".toList ++ [letter])

/-- The options in front of some arguments, of which there are at most so many, and what follows. -/
def options (plain valued : List Char) :
    Nat → List Text → Action (List (Char × Text) × List Text)
  | 0, arguments => pure ([], arguments)
  | _, [] => pure ([], [])
  | count + 1, argument :: rest => do
    match argument with
    | ['-', '-'] => pure ([], rest)
    | '-' :: first :: more => do
      let (given, rest) ← letters plain valued rest (first :: more)
      let (others, rest) ← options plain valued count rest
      pure (given ++ others, rest)
    | _ => pure ([], argument :: rest)

/-- The options without values in front of some arguments, and what follows. -/
def flags (plain : String) (arguments : List Text) : Action (List Char × List Text) := do
  let (given, rest) ← options plain.toList [] arguments.length arguments
  pure (given.map Prod.fst, rest)

/-- Fails unless a text is a name. -/
def checkName (text : Text) : Action Unit := do
  if !Text.isName text then Action.fail (text ++ ": bad variable name".toList)

/-- A value between quotes; quotes inside it stand between quotes of the other kind. -/
def quoted (value : Text) : Text :=
  let runs := value.splitBy fun first second => (first == '\'') == (second == '\'')
  let front := if value.isEmpty || value.head? = some '\'' then ['\'', '\''] else []
  front ++ runs.flatMap fun run =>
    if run.head? = some '\'' then '"' :: run ++ ['"'] else '\'' :: run ++ ['\'']

/-! ## Variables -/

def variableLine (front name : Text) (value : Option Text) : Text :=
  let value := match value with
    | some value => '=' :: quoted value
    | none => []
  if front.isEmpty then name ++ value else front ++ ' ' :: name ++ value

def printVariables (front : Text) (test : Variable → Bool) : Action Unit := do
  for (name, held) in (← get).bindings.entries do
    if test held then printLine (variableLine front name.toList held.value)

/-- Changes the properties of variables, and gives values to those that stand with one. -/
def mark (name : String) (test : Variable → Bool) (change : Variable → Variable) : Builtin :=
  fun arguments => do
    let (given, operands) ← flags "p" arguments
    if given.contains 'p' || operands.isEmpty then
      printVariables name.toList test
    else
      for operand in operands do
        match Text.assignment? operand with
        | some (name, value) => do
          Action.assign name value
          Action.bind name (change (← Action.variableOf name))
        | none => do
          checkName operand
          Action.bind operand (change (← Action.variableOf operand))
    pure 0

/-- Lets programs see variables. -/
def publish : Builtin :=
  mark "export" Variable.exported fun held => { held with exported := true }

/-- Makes variables keep their values. -/
def protect : Builtin :=
  mark "readonly" Variable.readOnly fun held => { held with readOnly := true }

/-- Makes variables belong to the function that runs. -/
def localize : Builtin := fun operands => do
  if (← get).calls = 0 then Action.fail "not in a function".toList
  for operand in operands do
    if operand ≠ ['-'] then
      let name := operand.takeWhile (· != '=')
      checkName name
      Action.hide name
      match Text.assignment? operand with
      | some (name, value) => Action.assign name value
      | none => Action.bind name (← Action.variableOf name)
  pure 0

/-- Makes variables or functions unknown. -/
def forget : Builtin := fun arguments => do
  let (given, operands) ← flags "fv" arguments
  for name in operands do
    if given.getLast? = some 'f' then
      modify fun machine =>
        { machine with functions := machine.functions.filter fun entry => entry.1 != name }
    else do
      checkName name
      if (← Action.variableOf name).readOnly then Action.fail (name ++ ": is read only".toList)
      modify fun machine =>
        { machine with bindings := machine.bindings.erase (String.ofList name) }
  pure 0

def readLine : Builtin := fun arguments => do
  let (given, names) ← options ['r'] ['p'] arguments.length arguments
  if names.isEmpty then Action.fail "arg count".toList
  let machine ← get
  let text := machine.readable (machine.stream? 0)
  let (parts, rest, hasEnd) := LinePart.ofInput (given.any fun option => option.1 == 'r') text
  match machine.stream? 0 with
  | some stream =>
    set (machine.setStream 0 (Machine.advanced (text.length - rest.length) stream))
  | none => pure ()
  let words := LinePart.words machine.separators names.length parts
  for (name, index) in names.zipIdx do
    checkName name
    Action.assign name ((words[index]?).getD [])
  pure (if hasEnd then 0 else 1)

/-! ## Options of scripts -/

/-- Where the reading of options of a script stands. -/
structure OptionPlace where
  index : Nat
  /-- What is left of the argument in front of the place, if it is not done. -/
  rest? : Option Text

/-- Remembers a place in the reading of options. -/
def OptionPlace.keep (place : OptionPlace) (arguments : List Text) : Action Unit := do
  let before := ((arguments[place.index - 2]?).getD []).length
  modify fun machine => { machine with
    optionIndex := place.index
    optionOffset := match place.rest? with
      | some rest => before - rest.length
      | none => 0 }
  let name := "OPTIND".toList
  Action.bind name { (← Action.variableOf name) with value := some (Text.ofNat place.index) }

/-- Makes the value of an option known, or unknown. -/
def setOptionValue (value : Option Text) : Action Unit := do
  let name := "OPTARG".toList
  match value with
  | some value => Action.assign name value
  | none => modify fun machine =>
      { machine with bindings := machine.bindings.erase (String.ofList name) }

/-- What a letter is in the text that tells the options of a script: whether it has a value. -/
def optionKind? (letter : Char) : Text → Option Bool
  | [] => none
  | char :: ':' :: rest => if char = letter then some true else optionKind? letter rest
  | char :: rest => if char = letter then some false else optionKind? letter rest

/-- Reads the option behind a letter; the name of the option and the new place. -/
def readOption (known : Text) (arguments : List Text) (letter : Char) (rest : Text) (index : Nat) :
    Action (Char × OptionPlace) := do
  let isQuiet := known.head? = some ':'
  match optionKind? letter known with
  | none => do
    if isQuiet then setOptionValue (some [letter])
    else do
      complain ("Illegal option -".toList ++ [letter])
      setOptionValue none
    pure ('?', ⟨index, some rest⟩)
  | some false => do
    setOptionValue (some [])
    pure (letter, ⟨index, some rest⟩)
  | some true =>
    if !rest.isEmpty then do
      setOptionValue (some rest)
      pure (letter, ⟨index, none⟩)
    else
      match arguments[index - 1]? with
      | some value => do
        setOptionValue (some value)
        pure (letter, ⟨index + 1, none⟩)
      | none => do
        if isQuiet then do
          setOptionValue (some [letter])
          pure (':', ⟨index, none⟩)
        else do
          complain ("No arg for -".toList ++ letter :: " option".toList)
          setOptionValue none
          pure ('?', ⟨index, none⟩)

def nextOption : Builtin := fun arguments => do
  match arguments with
  | known :: name :: others => do
    let machine ← get
    let arguments := if others.isEmpty then machine.arguments else others
    let isPast := arguments.length + 1 < machine.optionIndex
    let index := if isPast then 1 else machine.optionIndex
    let offset := if isPast then 0 else machine.optionOffset
    let inside :=
      if index ≤ 1 || offset = 0 then [] else ((arguments[index - 2]?).getD []).drop offset
    let finish := fun (letter : Char) (place : OptionPlace) (status : Nat) => do
      place.keep arguments
      checkName name
      Action.assign name [letter]
      pure status
    match inside with
    | letter :: rest => do
      let (letter, place) ← readOption known arguments letter rest index
      finish letter place 0
    | [] =>
      match arguments[index - 1]? with
      | some ['-', '-'] => finish '?' ⟨index + 1, none⟩ 1
      | some ('-' :: letter :: rest) => do
        let (letter, place) ← readOption known arguments letter rest (index + 1)
        finish letter place 0
      | _ => finish '?' ⟨index, none⟩ 1
  | _ => Action.fail "Usage: getopts optstring var [arg...]".toList

def shellOptions : List (String × Option Char) :=
  [("errexit", some 'e'), ("noglob", some 'f'), ("ignoreeof", some 'I'), ("interactive", some 'i'),
    ("monitor", some 'm'), ("noexec", some 'n'), ("stdin", some 's'), ("xtrace", some 'x'),
    ("verbose", some 'v'), ("vi", some 'V'), ("emacs", some 'E'), ("noclobber", some 'C'),
    ("allexport", some 'a'), ("notify", some 'b'), ("nounset", some 'u'), ("privileged", some 'p'),
    ("nolog", none), ("debug", none)]

/-- Turns an option on or off. -/
def turn (letter : Char) (on : Bool) : Action Unit :=
  modify fun machine =>
    let others := machine.options.filter (· != letter)
    { machine with options := if on then letter :: others else others }

/-- Turns an option on or off that is told by its name. -/
def turnNamed (name : Text) (on : Bool) : Action Unit := do
  match shellOptions.lookup (String.ofList name) with
  | some (some letter) => turn letter on
  | some none => pure ()
  | none => Action.fail ("Illegal option -o ".toList ++ name)

/-- Turns options on or off that are told by their letters. -/
def turnLetters (on : Bool) : Text → Action Unit
  | [] => pure ()
  | letter :: rest => do
    if (shellOptions.map Prod.snd).contains (some letter) then turn letter on
    else Action.fail ("Illegal option -".toList ++ [letter])
    turnLetters on rest

def showOptions (asCommands : Bool) : Action Unit := do
  let machine ← get
  if !asCommands then printLine "Current option settings".toList
  for (name, letter) in shellOptions do
    let on := letter.any machine.has
    if asCommands then printLine ((if on then "set -o " else "set +o ") ++ name).toList
    else
      let blanks := List.replicate (16 - name.length) ' '
      printLine (name.toList ++ blanks ++ (if on then "on" else "off").toList)

def setArguments (arguments : List Text) : Action Unit :=
  modify fun machine => { machine with arguments, optionIndex := 1, optionOffset := 0 }

/-- Turns options on or off and takes new arguments; there are at most so many. -/
def configureFrom : Nat → List Text → Action Unit
  | 0, _ => pure ()
  | _, [] => pure ()
  | count + 1, argument :: rest => do
    match argument with
    | ['-', '-'] => setArguments rest
    | ['-'] => do
      turnLetters false ['v', 'x']
      if !rest.isEmpty then setArguments rest
    | sign :: letters =>
      if sign = '-' || sign = '+' then
        turnLetters (sign == '-') (letters.filter (· != 'o'))
        if letters.contains 'o' then
          match rest with
          | [] => showOptions (sign == '+')
          | name :: rest => do
            turnNamed name (sign == '-')
            configureFrom count rest
        else configureFrom count rest
      else setArguments (argument :: rest)
    | [] => setArguments (argument :: rest)

/-- Changes how a script runs, or the arguments it sees. -/
def configure : Builtin := fun arguments => do
  if arguments.isEmpty then printVariables [] fun held => held.value.isSome
  else configureFrom (arguments.length + 1) arguments
  pure 0

def shift : Builtin := fun arguments => do
  let count ← match arguments with
    | [] => pure 1
    | text :: _ => number text
  let machine ← get
  if machine.arguments.length < count then Action.fail "can't shift that many".toList
  setArguments (machine.arguments.drop count)
  pure 0

/-! ## Leaving -/

def exit : Builtin := fun arguments => do
  match arguments with
  | [] => modify fun machine => { machine with status := machine.trapStatus?.getD machine.status }
  | text :: _ => Action.setStatus ((← number text) % 256)
  throw .exited

def leave : Builtin := fun arguments => do
  match arguments with
  | [] => pure ()
  | text :: _ => Action.setStatus ((← number text) % 256)
  throw .returned

/-- Leaves loops, or goes on with the next turn of one. -/
def leaveLoops (halt : Nat → Halt) : Builtin := fun arguments => do
  let count ← match arguments with
    | [] => pure 1
    | text :: _ => do
      let count ← number text
      if count = 0 then Action.fail ("Illegal number: ".toList ++ text)
      pure count
  let depth := (← get).loops
  if depth = 0 then pure 0
  else do
    Action.setStatus 0
    throw (halt (min count depth))

/-! ## Places -/

def locationText (location : Location) : Text := '/' :: Text.ofString ("/".intercalate location)

/-- Works in another directory from now on. -/
def changeDirectory : Builtin := fun arguments => do
  let (_, operands) ← flags "LP" arguments
  let machine ← get
  let previous := machine.value? "OLDPWD".toList
  let (target, telling) := match operands with
    | [] => ((machine.value? "HOME".toList).getD [], false)
    | ['-'] :: _ => (previous.getD [], true)
    | target :: _ => (target, false)
  if target.isEmpty then pure 0
  else
    match machine.files.stat (machine.path target) with
    | .ok (location, { content := .directory, .. }) => do
      let before := machine.value? "PWD".toList
      set { machine with directory := location }
      Action.assign "OLDPWD".toList (before.getD (locationText machine.directory))
      Action.assign "PWD".toList (locationText location)
      if telling then printLine (locationText location)
      pure 0
    | _ => Action.fail ("can't cd to ".toList ++ target)

/-- Prints the directory that is worked in. -/
def showDirectory : Builtin := fun arguments => do
  let _ ← flags "LP" arguments
  printLine (locationText (← get).directory)
  pure 0

/-- Shows the permissions that new files lack. -/
def showMask : Builtin := fun arguments => do
  let (given, operands) ← flags "S" arguments
  let mask := (← get).mask
  let granted := (0o777 : Mode).without mask
  let set := fun (mask : Mode) => do
    modify fun machine => { machine with mask := mask % 512 }
    pure 0
  match operands with
  | [] => do
    let part := fun (holder : Char) (bits : Nat) => holder :: '=' :: Permissions.setText bits
    printLine
      (if given.contains 'S' then
        Text.joined [','] [part 'u' (granted / 64), part 'g' (granted / 8), part 'o' granted]
      else Permissions.octalText mask)
    pure 0
  | text :: _ =>
    if text.head?.any Char.isDigit then
      if text.all fun char => '0' ≤ char && char ≤ '7' then
        set (text.foldl (fun mask digit => 8 * mask + (digit.toNat - '0'.toNat)) 0)
      else Action.fail ("Illegal number: ".toList ++ text)
    else
      match Permissions.changed? mask granted text true with
      | some mode => set ((0o777 : Mode).without mode)
      | none => Action.fail ("Illegal mode: ".toList ++ text)

def showLimit : Builtin := fun arguments => do
  if arguments.all fun argument => argument.head? = some '-' then printLine "unlimited".toList
  pure 0

/-! ## Printing -/

def printWords : Builtin := fun arguments => do
  Action.write 1 (echo arguments)
  pure 0

/-- Prints a format with values filled in. -/
def printFormatted : Builtin := fun arguments => do
  let (_, operands) ← flags "" arguments
  match operands with
  | [] => Action.fail "usage: printf format [arg ...]".toList
  | format :: values => do
    let filling := printFormat format values
    for warning in filling.warnings.reverse do Action.report warning
    Action.write 1 filling.printed.reverse
    match filling.fault? with
    | some fault => Action.fail fault
    | none => pure (if filling.warnings.isEmpty then 0 else 1)

/-! ## Conditions -/

def tellCondition (evaluate : Condition.Scene → List Text → Except ConditionFault Bool) : Builtin :=
  fun arguments => do
    let machine ← get
    match evaluate ⟨machine.files, machine.directory⟩ arguments with
    | .ok holds => pure (if holds then 0 else 1)
    | .error fault => Action.fail fault.message

/-! ## Signals and jobs -/

/-- The signals that some arguments tell; one that is unknown is reported. -/
def setTraps (action : Option Text) : List Text → Action Nat
  | [] => pure 0
  | text :: rest =>
    match Signals.number? text with
    | none => do
      complain ("trap: ".toList ++ text ++ ": bad trap".toList)
      pure 1
    | some signal => do
      modify fun machine =>
        let others := machine.traps.filter fun entry => entry.1 != signal
        { machine with traps := match action with
            | some action => (signal, action) :: others
            | none => others }
      setTraps action rest

/-- Says what is to be done when signals come. -/
def onSignals : Builtin := fun arguments => do
  let (_, operands) ← flags "" arguments
  match operands with
  | [] => do
    let traps := (← get).traps
    for (signal, action) in traps.mergeSort fun first second => first.1 ≤ second.1 do
      printLine ("trap -- ".toList ++ quoted action ++ ' ' :: Signals.name signal)
    pure 0
  | first :: rest =>
    if rest.isEmpty || (first.head?.any Char.isDigit && (Signals.number? first).isSome) then
      setTraps none operands
    else setTraps (if first = ['-'] then none else some first) rest

def send (signal : Nat) (text : Text) : Action Bool := do
  let machine ← get
  let process ← match text with
    | '-' :: digits => number digits
    | '%' :: _ => pure (machine.lastJob?.getD 0)
    | digits => number digits
  let begun := machine.waiting.find? fun job => job.number == process
  if process = processNumber then
    match machine.traps.lookup signal with
    | some _ => do
      set { machine with pending := machine.pending ++ [signal] }
      pure true
    | none => if Signals.isHarmless signal then pure true else throw (.killed signal)
  else if let some job := begun then
    if Signals.isHarmless signal then pure true
    else
      let work := job.work (some machine.clock) machine.files machine.streams
      let kept : Aftermath := if job.begun < machine.clock then work
        else { work with files := machine.files, streams := machine.streams }
      set (machine.settled job { kept with status := 128 + signal })
      pure true
  else do
    Action.report "No such process\n".toList
    pure false

/-- Prints the names of signals. -/
def listSignals (operands : List Text) : Action Nat := do
  match operands with
  | [] => do
    printLine ['0']
    for signal in List.range Signals.names.length do
      if signal > 0 then printLine (Signals.name signal)
  | text :: _ => do
    let value ← number text
    let signal := if value > 128 then value - 128 else value
    if signal = 0 || Signals.names.length ≤ signal then
      Action.fail ("invalid signal number or exit status: ".toList ++ text)
    printLine (Signals.name signal)
  pure 0

/-- Sends a signal to processes. -/
def kill : Builtin := fun arguments => do
  let usage : Action Nat := Action.fail
    ("Usage: kill [-s sigspec | -signum | -sigspec] [pid | job]... or\n" ++
      "kill -l [exitstatus]").toList
  let sendAll := fun (signal : Nat) (targets : List Text) => do
    if targets.isEmpty then usage
    else
      let results ← targets.mapM (send signal)
      pure (if results.all id then 0 else 1)
  match arguments with
  | [] => usage
  | ('-' :: name) :: rest =>
    match Signals.number? name with
    | some signal => sendAll signal rest
    | none => do
      let (given, operands) ← options ['l'] ['s'] arguments.length arguments
      match given.getLast? with
      | some ('l', _) => listSignals operands
      | some (_, name) =>
        match Signals.number? name with
        | some signal => sendAll signal operands
        | none => Action.fail ("invalid signal number or name: ".toList ++ name)
      | none => sendAll Signals.termination operands
  | targets => sendAll Signals.termination targets

/-- Waits for commands in the background. -/
def wait : Builtin := fun arguments => do
  if arguments.isEmpty then Action.awaitJobs fun _ => true
  let statusOf := fun (text : Text) => do
    match text with
    | '%' :: _ => do
      match (← get).lastJob? with
      | some last => do
        Action.awaitJobs (· == last)
        pure (((← get).jobs.lookup last).getD 127)
      | none => Action.fail ("No such job: ".toList ++ text)
    | digits => do
      let process ← number digits
      Action.awaitJobs (· == process)
      let status := ((← get).jobs.lookup process).getD 127
      match if 128 < status then Signals.wording? (status - 128) else none with
      | some wording => Action.write 2 (wording ++ "\n").toList
      | none => pure ()
      pure status
  let statuses ← arguments.mapM statusOf
  pure (statuses.getLast?.getD 0)

/-- Reports that no command is in the background. -/
def noJob : Builtin := fun _ => Action.fail "No current job".toList

/-! ## Aliases -/

/-- Gives words other texts to be read as, or shows them. -/
def setAliases : Builtin := fun arguments => do
  let aliases := (← get).reader.aliases
  if arguments.isEmpty then
    for (name, text) in aliases.mergeSort fun first second => Text.precedes first.1 second.1 do
      printLine (name ++ '=' :: quoted text)
    pure 0
  else
    let results ← arguments.mapM fun argument => do
      let name := argument.takeWhile (· != '=')
      if name.length < argument.length && !name.isEmpty then
        modify fun machine =>
          let others := machine.reader.aliases.filter fun entry => entry.1 != name
          let aliases := (name, argument.drop (name.length + 1)) :: others
          { machine with reader := { machine.reader with aliases } }
        pure true
      else
        match aliases.lookup argument with
        | some text => do
          printLine (argument ++ '=' :: quoted text)
          pure true
        | none => do
          complain ("alias: ".toList ++ argument ++ " not found".toList)
          pure false
    pure (if results.all id then 0 else 1)

/-- Takes other texts for words away. -/
def unalias : Builtin := fun arguments => do
  let (given, operands) ← flags "a" arguments
  let keep := fun (test : Text → Bool) => modify fun (machine : Machine) =>
    let aliases := machine.reader.aliases.filter fun entry => test entry.1
    { machine with reader := { machine.reader with aliases } }
  if given.contains 'a' then
    keep fun _ => false
    pure 0
  else
    let results ← operands.mapM fun name => do
      if ((← get).reader.aliases.lookup name).isSome then
        keep fun other => other != name
        pure true
      else
        complain ("unalias: ".toList ++ name ++ " not found".toList)
        pure false
    pure (if results.all id then 0 else 1)

/-! ## All of them -/

/-- A command that ends in some way and does nothing else. -/
def ending (status : Nat) : Builtin := fun _ => pure status

/-- The commands whose failures end a script. -/
def special : List (String × Builtin) :=
  [(":", ending 0), ("break", leaveLoops .left), ("continue", leaveLoops .continued),
    ("exit", exit), ("export", publish), ("local", localize), ("readonly", protect),
    ("return", leave), ("set", configure), ("shift", shift), ("trap", onSignals),
    ("unset", forget)]

/-- The commands whose failures only show in their statuses. -/
def regular : List (String × Builtin) :=
  [("[", tellCondition Condition.holdsInBrackets), ("alias", setAliases), ("bg", noJob),
    ("cd", changeDirectory), ("chdir", changeDirectory), ("echo", printWords),
    ("false", ending 1), ("fg", noJob), ("getopts", nextOption), ("jobs", ending 0),
    ("kill", kill), ("printf", printFormatted), ("pwd", showDirectory), ("read", readLine),
    ("test", tellCondition Condition.holds), ("true", ending 0), ("ulimit", showLimit),
    ("umask", showMask), ("unalias", unalias), ("wait", wait)]

/-- The commands that run other ones, and whether their failures end a script. -/
def runners : List (String × Bool) :=
  [(".", true), ("eval", true), ("exec", true), ("times", true), ("command", false),
    ("hash", false), ("type", false)]

/-- Whether a name is one of a command that a shell does itself, and if so whether the failures of
the command end a script. -/
def isSpecial? (name : Text) : Option Bool :=
  let name := String.ofList name
  if (special.lookup name).isSome then some true
  else if (regular.lookup name).isSome then some false
  else runners.lookup name

def named? (name : Text) : Option Builtin :=
  let name := String.ofList name
  (special.lookup name).or (regular.lookup name)

/-- The commands whose arguments may be assignments. -/
def takesAssignments (name : Text) : Bool :=
  ["alias", "export", "local", "readonly"].contains (String.ofList name)

end Builtin

end ComponentSchema.Script
