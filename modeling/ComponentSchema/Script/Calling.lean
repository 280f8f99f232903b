import ComponentSchema.Script.Redirecting
import ComponentSchema.Script.Starting

/-!
Calling commands by their names.  A function comes before the commands that a shell does itself, and
those come before programs.
-/

namespace ComponentSchema.Script

/-- What a command is done by. -/
inductive Callee where
  | nothing
  | function (body : Command)
  | builtin
  | program

/-- A command that is called. -/
structure Call where
  callee : Callee := .nothing
  name : Text := []
  arguments : List Text := []
  /-- Whether a fault ends the script. -/
  isSpecial : Bool := false

namespace Call

/-- What the arguments of `command` call, unless they ask for something else. -/
def operands? : List Text → Option (List Text)
  | [] => none
  | ['-', '-'] :: rest => if rest.isEmpty then none else some rest
  | ('-' :: letter :: letters) :: rest =>
    if (letter :: letters).all (· == 'p') then operands? rest else none
  | words => some words

/-- The command that words behind `command` call, of which there are at most so many. -/
def plain (name : Text) (arguments : List Text) : Nat → Call
  | 0 => { callee := .builtin, name, arguments }
  | count + 1 =>
    if name = "command".toList then
      match operands? arguments with
      | some (name :: arguments) => plain name arguments count
      | _ => { callee := .builtin, name, arguments }
    else
      match Builtin.isSpecial? name with
      | some _ => { callee := .builtin, name, arguments }
      | none => { callee := .program, name, arguments }

def ofWords (machine : Machine) : List Text → Call
  | [] => {}
  | name :: arguments =>
    match machine.functions.lookup name with
    | some body => { callee := .function body, name, arguments }
    | none =>
      match Builtin.isSpecial? name with
      | none => { callee := .program, name, arguments }
      | some isSpecial =>
        if name = "command".toList then plain name arguments (arguments.length + 1)
        else { callee := .builtin, name, arguments, isSpecial }

/-- Whether a command is a given one that a shell does itself. -/
def isBuiltin (call : Call) (name : String) : Bool :=
  match call.callee with
  | .builtin => call.name == name.toList
  | _ => false

def takesAssignments (call : Call) : Bool :=
  match call.callee with
  | .builtin => Builtin.takesAssignments call.name
  | _ => false

/-- Whether assignments in front hold on behind the command. -/
def keepsAssignments (call : Call) : Bool :=
  match call.callee with
  | .nothing => true
  | .builtin => call.isSpecial
  | _ => false

end Call

namespace Action

/-! ## Telling about commands -/

/-- Tells what a name stands for where commands are called: whether it stands for anything. -/
def describe (long : Bool) (name : Text) : Action Bool := do
  let machine ← get
  let tell := fun (wording : Text) => do
    Builtin.printLine (if long then name ++ wording else name)
    pure true
  if (Keyword.ofText? name).isSome then tell " is a shell keyword".toList
  else
    match machine.reader.aliases.lookup name with
    | some text => do
      if long then tell (" is an alias for ".toList ++ text)
      else do
        Builtin.printLine ("alias ".toList ++ name ++ '=' :: Builtin.quoted text)
        pure true
    | none =>
      if (machine.functions.lookup name).isSome then tell " is a shell function".toList
      else
        match Builtin.isSpecial? name with
        | some isSpecial =>
          tell (if isSpecial then " is a special shell builtin" else " is a shell builtin").toList
        | none => do
          let found := match machine.programPath name with
            | .ok path =>
              if !name.contains '/' then some path
              else if (Standing.toolAt? path).isSome then some path
              else if machine.files.pathExists (machine.path path) then some path
              else none
            | .error _ => none
          match found with
          | none => do
            if long then Builtin.printLine (name ++ ": not found".toList)
            pure false
          | some path => do
            let isTracked := (machine.tracked.lookup name).isSome
            if !name.contains '/' && !isTracked then
              set { machine with tracked := (name, path) :: machine.tracked }
            if !long then Builtin.printLine path
            else if isTracked then
              Builtin.printLine (name ++ " is a tracked alias for ".toList ++ path)
            else Builtin.printLine (name ++ " is ".toList ++ path)
            pure true

/-- Tells about several names. -/
def describeAll (names : List Text) : Action Nat := do
  let results ← names.mapM (describe true)
  pure (if results.all id then 0 else 127)

def describeCommand : Builtin := fun arguments => do
  let (given, operands) ← Builtin.flags "pvV" arguments
  match operands with
  | name :: _ =>
    if given.contains 'V' || given.contains 'v' then do
      pure (if ← describe (given.contains 'V') name then 0 else 127)
    else pure 0
  | [] => pure 0

/-- Remembers where programs are, or forgets it, or tells it. -/
def track : Builtin := fun arguments => do
  let (given, operands) ← Builtin.flags "rv" arguments
  if given.contains 'r' then
    modify fun machine => { machine with tracked := [] }
    pure 0
  else if operands.isEmpty then
    for (_, path) in (← get).tracked.reverse do Builtin.printLine path
    pure 0
  else
    let results ← operands.mapM fun name => do
      let machine ← get
      match machine.programPath name with
      | .ok path => do
        if !name.contains '/' then
          let others := machine.tracked.filter fun entry => entry.1 != name
          set { machine with tracked := (name, path) :: others }
        pure true
      | .error _ => do
        if (machine.functions.lookup name).isSome || (Builtin.isSpecial? name).isSome then pure true
        else rejected (name ++ ": not found".toList)
    pure (if results.all id then 0 else 1)

/-! ## Commands that run others -/

def evaluateText (runner : Runner) (tested : Bool) : Builtin := fun arguments => do
  if arguments.isEmpty then pure 0
  else do
    runText runner false tested (Text.joined [' '] arguments)
    pure (← get).status

def leavable (work : Action Unit) : Action Unit := fun machine =>
  match work machine with
  | (.error .returned, after) => (.ok (), after)
  | ended => ended

def includeFile (runner : Runner) : Builtin := fun arguments => do
  let (_, operands) ← Builtin.flags "" arguments
  match operands with
  | [] => pure 0
  | name :: _ => do
    let machine ← get
    let isThere := fun (path : Text) => machine.files.isFile (machine.path path)
    let found := if name.contains '/' then some name
      else (machine.searchPath.map fun directory => Machine.pathIn directory name).find? isThere
    match found with
    | none => fail (name ++ ": not found".toList)
    | some path => do
      if path ≠ nullPath && !machine.files.pathExists (machine.path path) then
        fail ("cannot open ".toList ++ path ++ ": No such file".toList)
      modify fun machine => { machine with caller := some path }
      leavable (runFile runner path)
      pure (← get).status

/-- Becomes another program; without one, only the redirections last. -/
def become (runner : Runner) : Builtin := fun arguments => do
  let (_, operands) ← Builtin.flags "" arguments
  match operands with
  | [] => pure 0
  | name :: arguments => do
    match ← start (runStart runner runnerLimit) name arguments with
    | .ok (.status status) => do
      modify fun machine =>
        { machine with status, traps := machine.traps.filter fun trap => trap.1 != 0 }
      throw .exited
    | .ok (.signal number) => throw (.killed number)
    | .error reason => do
      let isMissing := reason = .notFound || reason = .notDirectory
      report (name ++ ": ".toList ++ if isMissing then "not found".toList else plainReason reason)
      setStatus (Ending.ofProblem reason)
      throw .exited

/-- Tells how much time was spent, which is none. -/
def tellTimes : Builtin := fun _ => do
  let line := "0m0.000000s 0m0.000000s".toList
  Builtin.printLine line
  Builtin.printLine line
  pure 0

/-- The command with a name, among all that a shell does itself. -/
def builtin (runner : Runner) (tested : Bool) (name : Text) : Builtin :=
  match Builtin.named? name with
  | some builtin => builtin
  | none =>
    if name = ['.'] then includeFile runner
    else if name = "eval".toList then evaluateText runner tested
    else if name = "exec".toList then become runner
    else if name = "command".toList then describeCommand
    else if name = "hash".toList then track
    else if name = "type".toList then describeAll
    else tellTimes

/-- Runs a command that a shell does itself.  A fault in it only ends the script if that is said. -/
def runBuiltin (runner : Runner) (tested : Bool) (call : Call) : Action Unit := fun machine =>
  let work : Action Unit := do
    setStatus (← builtin runner tested call.name call.arguments)
    if (← get).lost then
      report (call.name ++ ": I/O error".toList)
      modify fun machine => { machine with status := machine.status ||| 1 }
  let (result, after) := work { machine with caller := some call.name, lost := false }
  let after := { after with caller := machine.caller, lost := false }
  match result with
  | .error .failed => (if call.isSpecial then .error .failed else .ok (), after)
  | result => (result, after)

/-- Runs a function, which sees its own arguments and may be left. -/
def runFunction (runner : Runner) (tested : Bool) (body : Command) (arguments : List Text) :
    Action Unit := fun machine =>
  let (result, after) := leavable (runner tested body)
    { machine with
      arguments, loops := 0, calls := machine.calls + 1, optionIndex := 1, optionOffset := 0 }
  let after := { after with
    arguments := machine.arguments, loops := machine.loops, calls := machine.calls
    optionIndex := machine.optionIndex, optionOffset := machine.optionOffset }
  (result, after)

def perform (runner : Runner) (tested : Bool) (call : Call) : Action Unit := do
  match call.callee with
  | .nothing => modify fun machine => { machine with status := machine.printedStatus }
  | .function body => runFunction runner tested body call.arguments
  | .builtin => runBuiltin runner tested call
  | .program => do setStatus (← runProgram runner call.name call.arguments)

/-! ## Simple commands -/

/-- The words of a command behind those that are there already.  Where a command takes assignments,
the value of one stays a single word. -/
def commandWords (runner : Runner) (before : List Text) : List Word → Action (List Text)
  | [] => pure before
  | word :: rest => do
    let call := Call.ofWords (← get) before
    let words ←
      match if call.takesAssignments then word.assignment? else none with
      | some (name, value) => do pure [name ++ '=' :: (← Word.expandValue runner value)]
      | none => Word.expandFields runner word
    commandWords runner (before ++ words) rest

/-- Makes assignments, which may be meant for programs; answers with them as texts. -/
def assignAll (runner : Runner) (lasts exports : Bool) :
    List (Text × Word) → Action (List Text)
  | [] => pure []
  | (name, word) :: rest => do
    let value ← Word.expandValue runner word
    if !lasts then hide name
    assign name value
    if exports then bind name { (← variableOf name) with exported := true }
    pure ((name ++ '=' :: value) :: (← assignAll runner lasts exports rest))

/-- Tells a command before it is run, where that is wished. -/
def traceCommand (descriptors : List (Nat × Nat)) (words : List Text) : Action Unit := do
  let machine ← get
  if machine.has 'x' then
    let front := (machine.value? "PS4".toList).getD []
    withStreams (fun machine => { machine with descriptors }) do
      write 2 (front ++ Text.joined [' '] words ++ ['\n'])

/-- Runs the command that words call, with assignments in front of them. -/
def runCall (runner : Runner) (tested : Bool) (descriptors : List (Nat × Nat)) (call : Call)
    (words : List Text) (assignments : List (Text × Word)) : Action Unit := do
  let lasts := call.keepsAssignments
  let exports := !lasts || (call.isBuiltin "exec" && 1 < words.length)
  if !lasts then modify fun machine => { machine with hidden := [] :: machine.hidden }
  let work : Action Unit := do
    let assigned ← assignAll runner lasts exports assignments
    traceCommand descriptors (assigned ++ words)
    perform runner tested call
  if lasts then work
  else fun machine =>
    let (result, after) := work machine
    (result, (unhide.run after).2)

/-- Runs a command of words, assignments and redirections. -/
def runSimple (runner : Runner) (tested : Bool) (line : Nat) (assignments : List (Text × Word))
    (words : List Word) (redirections : List Redirection) : Action Unit := do
  modify fun machine => { machine with line, printedStatus := 0 }
  let words ← commandWords runner [] words
  let before ← get
  let call := Call.ofWords before words
  let restore := fun (after : Machine) =>
    if call.isBuiltin "exec" then after
    else { after with descriptors := before.descriptors }
  always (do
    if ← redirect runner redirections then
      runCall runner tested before.descriptors call words assignments
    else
      setStatus 2
      if call.isSpecial then throw .failed) restore

end Action

end ComponentSchema.Script
