import ComponentSchema.Script.Builtin
import ComponentSchema.Script.Finding
import ComponentSchema.Script.Opening
import ComponentSchema.Script.Program
import ComponentSchema.Script.Subshell
import ComponentSchema.Script.Tool.Running

/-!
Starting programs.  A program works on the streams of the script that starts it and sees the
variables that are meant for it; only what it does to files and streams lasts.
-/

namespace ComponentSchema.Script

namespace Ending

/-- The status a script sees of a program. -/
def toStatus : Ending → Nat
  | status value => value
  | signal number => 128 + number

/-- The status of a program that cannot be started. -/
def ofProblem (reason : IoError) : Nat :=
  if [.notFound, .notDirectory, .nameTooLong, .tooManyLevels].contains reason then 127 else 126

end Ending

namespace Action

/-! ## Shells -/

/-- Takes the options of a shell: whether a command is among its arguments, and what follows the
options, of which there are at most so many. -/
def shellOptions : Nat → Bool → List Text → Action (Bool × List Text)
  | 0, isCommand, arguments => pure (isCommand, arguments)
  | count + 1, isCommand, arguments => do
    match arguments with
    | (sign :: letters) :: rest => do
      if sign != '-' && sign != '+' then pure (isCommand, arguments)
      else if sign = '-' && (letters.isEmpty || letters = ['-']) then pure (isCommand, rest)
      else
        let known := letters.filter fun letter => letter != 'c' && letter != 'l' && letter != 'o'
        Builtin.turnLetters (sign == '-') known
        let isCommand := isCommand || letters.contains 'c'
        if !letters.contains 'o' then shellOptions count isCommand rest
        else
          match rest with
          | [] => do
            Builtin.showOptions (sign == '+')
            pure (isCommand, [])
          | name :: rest => do
            Builtin.turnNamed name (sign == '-')
            shellOptions count isCommand rest
    | _ => pure (isCommand, arguments)

def runFile (runner : Runner) (path : Text) : Action Unit := do
  let machine ← get
  match if path = nullPath then .ok ([], { content := .directory })
      else machine.files.stat (machine.path path) with
  | .ok (_, { content := .file bytes, .. }) => runText runner true false (Text.ofBytes bytes)
  | .ok _ => setStatus 0
  | .error reason =>
    fail ("cannot open ".toList ++ path ++ ": ".toList ++ cannotOpen reason)

def runArguments (runner : Runner) (arguments : List Text) : Action Unit := do
  let (isCommand, rest) ← shellOptions arguments.length false arguments
  let takeArguments := fun (rest : List Text) => modify fun (machine : Machine) =>
    { machine with name := rest.head?.getD machine.name, arguments := rest.tail }
  match isCommand, rest with
  | true, [] => fail "-c requires an argument".toList
  | true, text :: rest => do
    takeArguments rest
    runText runner false false text
  | false, [] => do
    let machine ← get
    let text := machine.readable (machine.stream? 0)
    match machine.stream? 0 with
    | some stream => set (machine.setStream 0 (Machine.advanced text.length stream))
    | none => pure ()
    runText runner true false text
  | false, path :: _ => do
    if (← get).has 's' then
      modify fun machine => { machine with arguments := rest }
      let machine ← get
      runText runner true false (machine.readable (machine.stream? 0))
    else
      let machine ← get
      if !machine.files.pathExists (machine.path path) then runFile runner path
      else
        takeArguments rest
        runFile runner path

/-- The variables a shell begins with. -/
def firstBindings (environment : List (Text × Text)) : SortedMap String Variable :=
  let own : List (String × String) :=
    [("IFS", " \t\n"), ("OPTIND", "1"), ("PS1", "$ "), ("PS2", "> "), ("PS4", "+ "),
      ("PATH", "/usr/local/sbin:/usr/local/bin:/usr/sbin:/usr/bin:/sbin:/bin")]
  let bindings := own.foldl (fun bindings (name, value) =>
    bindings.insert name { value := some value.toList }) ∅
  environment.foldl (fun (bindings : SortedMap String Variable) (name, value) =>
    if Text.isName name && name ≠ "IFS".toList && name ≠ "OPTIND".toList then
      bindings.insert (String.ofList name) { value := some value, exported := true }
    else bindings) bindings

def runShell (runner : Runner) (name : Text) (arguments : List Text) : Action Ending :=
  fun machine =>
    let bindings := firstBindings machine.environment
    let inner : Machine :=
      { files := machine.files, directory := machine.directory, name
        bindings := bindings.insert "PWD"
          { value := some (Builtin.locationText machine.directory), exported := true }
        mask := machine.mask, streams := machine.streams, descriptors := machine.descriptors,
        reader := { rest := [] }
        traps := machine.traps.filter fun trap => trap.1 != 0 && trap.2.isEmpty
        clock := machine.clock, deadline? := machine.deadline?, waiting := machine.waiting
        launched := machine.launched, inherited := processNumber + machine.launched
        jobs := machine.jobs }
    let (ended, after) := toEnd runner (runArguments runner arguments) inner
    let machine := machine.rejoined after
    match ended with
    | .ok none => (.ok (.status after.status), machine)
    | .ok (some signal) => (.ok (.signal signal), machine)
    | .error halt => (.error halt, machine)

/-! ## Programs -/

/-- What starts tools. -/
abbrev Starter := Start → Action Ending

/-- Starts the program that a command tells: how it ended, or why it cannot be started. -/
def start (starter : Starter) (name : Text) (arguments : List Text) :
    Action (Except IoError Ending) := do
  let machine ← get
  match machine.programPath name with
  | .error reason => pure (.error reason)
  | .ok path =>
    match Start.ofPath machine.files machine.directory Start.depthLimit name path arguments with
    | .ok found => do pure (.ok (← starter found))
    | .error .invalidExecutable => do pure (.ok (← starter (.ofScript path arguments)))
    | .error reason => pure (.error reason)

/-- How a program ended that may have been ended by a signal like the script that started it. -/
def caughtStart (work : Action (Except IoError Ending)) : Action (Except IoError Ending) :=
  fun machine =>
    match work machine with
    | (.error (.killed signal), after) => (.ok (.ok (.signal signal)), after)
    | ended => ended

def mindDeadline : Action Unit := do
  let machine ← get
  if machine.deadline?.any (· ≤ machine.clock) then throw (.killed 15)

def surrounded (machine : Machine) (errand : Errand) : Machine :=
  let hidden := machine.bindings.entries.filter fun (name, _) =>
    errand.clears || errand.unset.contains name.toList
  let bindings := hidden.foldl (fun (bindings : SortedMap String Variable) (name, held) =>
    bindings.insert name { held with exported := false }) machine.bindings
  let bindings := errand.settings.foldl (fun (bindings : SortedMap String Variable) entry =>
    bindings.insert (String.ofList entry.1) { value := some entry.2, exported := true }) bindings
  { machine with bindings }

/-- Runs an errand of a tool; `told` is what the tool says of a program that cannot be started. -/
def runErrand (starter : Starter) (name : Text) (told : Text → Text) (errand : Errand) :
    Action Ending := do
  match errand.command with
  | [] => pure (.status 0)
  | program :: arguments => do
    let before ← get
    let restore := fun (after : Machine) =>
      { after with
        bindings := before.bindings, directory := before.directory
        deadline? := before.deadline? }
    let problem := fun (status : Nat) (text : Text) => do
      write 2 (name ++ ": ".toList ++ text ++ ['\n'])
      pure (Ending.status status)
    let goThere : Option (Except IoError Location) := errand.directory.map fun path =>
      match before.files.stat (before.path path) with
      | .ok (location, { content := .directory, .. }) => .ok location
      | .ok _ => .error .notDirectory
      | .error reason => .error reason
    match goThere with
    | some (.error reason) =>
      problem 125 ("cannot change directory to ".toList ++
        Quoting.word (errand.directory.getD []) ++ ": ".toList ++ plainReason reason)
    | place => do
      let directory := match place with
        | some (.ok location) => location
        | _ => before.directory
      let own := errand.limit?.map (before.clock + ·)
      let deadline? := match own, before.deadline? with
        | some own, some outer => some (min own outer)
        | own, outer => own.or outer
      set { surrounded before errand with directory, deadline? }
      let result ← always (caughtStart (start starter program arguments)) restore
      mindDeadline
      let isCut := own.any (· ≤ (← get).clock)
      match result with
      | .ok ended =>
        let cut := match errand.cutSignal? with
          | some signal => Ending.signal signal
          | none => .status errand.cutStatus
        pure (if isCut then cut else ended)
      | .error reason =>
        problem (if reason = .notFound then 127 else 126)
          (told program ++ ": ".toList ++ plainReason reason)

/-- The status of some batches of which one ended in some way, and whether the rest is left out. -/
def batchStatus (program : Text) : Ending → Nat × Bool × Option Text
  | .status 0 => (0, false, none)
  | .status 255 =>
    (124, true, some (program ++ ": exited with status 255; aborting".toList))
  | .status 126 => (126, true, none)
  | .status 127 => (127, true, none)
  | .status _ => (123, false, none)
  | .signal number =>
    (125, true, some (program ++ ": terminated by signal ".toList ++ Text.ofNat number))

/-- Runs batches one after the other, none of which has anything to read. -/
def runBatches (starter : Starter) (name : Text) (tells : Bool) :
    List (List Text) → Nat → Action Nat
  | [], status => pure status
  | command :: rest, status => do
    let program := command.head?.getD []
    if tells then write 2 (Text.joined [' '] (command.map Quoting.ifNeeded) ++ ['\n'])
    let complain := fun (text : Text) => write 2 (name ++ ": ".toList ++ text ++ ['\n'])
    match ← withStreams (fun machine => machine.addStream 0 .nothing)
        (start starter program command.tail) with
    | .error reason => do
      complain (program ++ ": ".toList ++ plainReason reason)
      pure (if reason = .notFound then 127 else 126)
    | .ok ended => do
      let (result, stops, wording) := batchStatus program ended
      match wording with
      | some text => complain text
      | none => pure ()
      if stops then pure result
      else runBatches starter name tells rest (if result = 0 then status else result)

/-- Prints the paths of programs: of all in the search path with a name, or of the first one. -/
def tellPaths (arguments : List Text) : Action Nat := do
  let given := arguments.takeWhile fun argument =>
    argument.head? = some '-' && argument ≠ ['-', '-']
  let letters := given.flatMap List.tail
  match letters.find? fun letter => letter != 'a' && letter != 's' with
  | some letter => do
    write 2 ("Illegal option -".toList ++ [letter, '\n'])
    write 1 "Usage: /usr/bin/which [-as] args\n".toList
    pure 2
  | none => do
    let rest := arguments.drop given.length
    let names := if rest.head? = some ['-', '-'] then rest.tail else rest
    let machine ← get
    let found := names.map fun name =>
      let paths := if name.contains '/' then [name]
        else machine.searchPath.map fun directory => Machine.pathIn directory name
      let there := paths.filter fun path => (Standing.toolAt? path).isSome ||
        (machine.files.entry? (machine.path path)).any fun entry => entry.mode.isExecutable
      if letters.contains 'a' then there else there.take 1
    if !letters.contains 's' then
      for path in found.flatten do write 1 (path ++ ['\n'])
    pure (if !names.isEmpty && found.all fun paths => !paths.isEmpty then 0 else 1)

/-- How a tool that runs others ends on some arguments. -/
def runRunner (starter : Starter) (found : Start) : Action Ending := do
  let onErrand := fun (read : List Text → Tool Errand) (told : Text → Text) => do
    match ← useTool found.name (read found.arguments) with
    | .ok errand => runErrand starter found.name told errand
    | .error status => pure (.status status)
  let failed := fun (quote : Text → Text) (program : Text) =>
    "failed to run command ".toList ++ quote program
  if found.tool = "env".toList then onErrand Tool.env Quoting.word
  else if found.tool = "nice".toList then onErrand Tool.nice Quoting.word
  else if found.tool = "nohup".toList then onErrand Tool.nohup (failed Quoting.always)
  else if found.tool = "stdbuf".toList then onErrand Tool.stdbuf (failed Quoting.word)
  else if found.tool = "timeout".toList then onErrand Tool.timeout (failed Quoting.word)
  else if found.tool = "which".toList then do pure (.status (← tellPaths found.arguments))
  else if found.tool = "find".toList then
    let run : CommandRunner := fun words => start starter (words.headD []) words.tail
    pure (.status (← findFiles run found.name found.arguments))
  else
    match ← useTool found.name (Tool.xargs found.arguments) with
    | .error status => pure (.status status)
    | .ok batches => do
      let status ← runBatches starter found.name batches.tells batches.commands 0
      match batches.fault? with
      | some fault => do
        write 2 (found.name ++ ": ".toList ++ fault ++ ['\n'])
        pure (.status 1)
      | none => pure (.status status)

/-- How many tools may run one another. -/
def runnerLimit : Nat := 64

/-- Runs what is started, among tools that run one another at most so many. -/
def runStart (runner : Runner) : Nat → Starter
  | 0, _ => throw (.killed 9)
  | count + 1, found => do
    let tool := String.ofList found.tool
    let long? := found.arguments.head?.filter fun argument =>
      "--".toList.isPrefixOf argument && 2 < argument.length
    if tool = "bash" && long?.isSome then
      pure (.status (← runTool found.name (Tool.refuseLong (long?.getD [])) []))
    else if Tool.shells.contains tool then runShell runner found.name found.arguments
    else if Tool.runners.contains tool then runRunner (runStart runner count) found
    else
      match Tool.named? found.tool with
      | some program => do pure (.status (← runTool found.name program found.arguments))
      | none => pure (.status 127)

def tellSignal : Ending → Action Unit
  | .status _ => pure ()
  | .signal number =>
    match Signals.wording? number with
    | some wording => write 2 (wording ++ "\n").toList
    | none => pure ()

/-- Runs the program that a command tells, which is remembered if it was found by its name. -/
def runProgram (runner : Runner) (name : Text) (arguments : List Text) : Action Nat := do
  let machine ← get
  match machine.programPath name with
  | .error reason => do
    report (name ++ ": ".toList ++
      if reason = .notFound then "not found".toList else plainReason reason)
    pure 127
  | .ok path => do
    if !name.contains '/' then
      let others := machine.tracked.filter fun entry => entry.1 != name
      set { machine with tracked := (name, path) :: others }
    settleQuick
    let result ← start (runStart runner runnerLimit) name arguments
    mindDeadline
    match result with
    | .ok ended => do
      tellSignal ended
      pure ended.toStatus
    | .error reason => do
      let isMissing := reason = .notFound || reason = .notDirectory
      report (name ++ ": ".toList ++ if isMissing then "not found".toList else plainReason reason)
      pure (Ending.ofProblem reason)

end Action

end ComponentSchema.Script
