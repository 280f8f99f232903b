import ComponentSchema.Script.Background
import ComponentSchema.Script.Parser

/-!
Running the lines of a script, and running commands apart: what such commands do to files and to
streams lasts, and nothing else does.
-/

namespace ComponentSchema.Script

/-- Something that runs commands.  It is told whether the status of the command is only looked at,
so that a failure does not end the script. -/
abbrev Runner := Bool → Command → Action Unit

namespace Action

/-! ## Lines -/

def lineSupply : Nat := 1000000

/-- Writes what has been read of a script where that is wished. -/
def echoInput (shows : Bool) (before after : Text) : Action Unit := do
  if shows && (← get).has 'v' then write 2 (before.take (before.length - after.length))

/-- Runs the lines that are left; answers whether there was a command, or there had been one. -/
def runLines (runner : Runner) (shows tested : Bool) : Nat → Bool → Action Bool
  | 0, _ => throw (.killed 9)
  | count + 1, hadCommand => do
    let reader := (← get).reader
    match Reading.nextLine reader with
    | .error (line, fault) => do
      echoInput shows reader.rest []
      failOver line fault
    | .ok (found, next) => do
      modify fun machine => { machine with reader := next }
      echoInput shows reader.rest next.rest
      match found with
      | none => pure hadCommand
      | some none => runLines runner shows tested count hadCommand
      | some (some command) => do
        runner tested command
        runLines runner shows tested count true

/-- Runs a text as a script; one without commands ends well. -/
def runText (runner : Runner) (shows tested : Bool) (text : Text) : Action Unit := do
  let outer := (← get).reader
  modify fun machine =>
    { machine with
      reader := { rest := text, documents := outer.documents, aliases := outer.aliases } }
  let hadCommand ← always (runLines runner shows tested lineSupply false) fun after =>
    { after with
      reader := { outer with
        documents := after.reader.documents, aliases := after.reader.aliases } }
  if !hadCommand then setStatus 0

/-! ## Signals -/

/-- Does what is to be done for signals that have come; the status stays what it was. -/
def runTraps (runner : Runner) : Action Unit := do
  let machine ← get
  if !machine.pending.isEmpty then
    let before := machine.trapStatus?
    let status := before.getD machine.status
    set { machine with pending := [], trapStatus? := some status }
    for signal in machine.pending.mergeSort (· ≤ ·) do
      match (← get).traps.lookup signal with
      | some text => do
        runText runner false false text
        setStatus status
      | none => pure ()
    modify fun machine => { machine with trapStatus? := before }

/-- How work ended on its own: the signal that ended it, if one did. -/
def caught (work : Action Unit) : Action (Option Nat) := fun machine =>
  match work machine with
  | (.error (.killed signal), after) => (.ok (some signal), after)
  | (_, after) => (.ok none, after)

/-- Does what is to be done at the end of a script, which may change its status by an exit. -/
def runEndTrap (runner : Runner) : Action (Option Nat) := do
  let machine ← get
  match machine.traps.lookup 0 with
  | none => pure none
  | some text => do
    set { machine with
      traps := machine.traps.filter fun trap => trap.1 != 0
      trapStatus? := some machine.status }
    caught do
      runText runner false false text
      setStatus machine.status

/-- Does all the work of a script, and what it began in the background: the signal that ended it, if
one did. -/
def toEnd (runner : Runner) (work : Action Unit) : Action (Option Nat) := do
  let ended ← match ← caught work with
    | some signal => pure (some signal)
    | none => runEndTrap runner
  let machine ← get
  settleBefore none fun job => machine.owns job.number
  pure ended

/-! ## Apart -/

/-- Does work on a copy of the script: only what it does to files and streams lasts, and how it
ended. -/
def inside (runner : Runner) (work : Action Unit) : Action Unit := fun machine =>
  let copy := { machine with
    traps := machine.traps.filter fun trap => trap.2.isEmpty
    trapStatus? := none
    pending := []
    inherited := processNumber + machine.launched }
  let (ended, after) := toEnd runner work copy
  let machine := { machine.rejoined after with
    status := after.status
    reader := { machine.reader with documents := after.reader.documents } }
  match ended with
  | .ok none => (.ok (), machine)
  | .ok (some signal) => (.error (.killed signal), machine)
  | .error halt => (.error halt, machine)

/-- Does work with other streams known, which are forgotten afterwards. -/
def withStreams {α : Type} (change : Machine → Machine) (work : Action α) : Action α := do
  let machine ← get
  set (change machine)
  always work fun after => { after with descriptors := machine.descriptors }

/-- What work apart prints. -/
def captured (runner : Runner) (work : Action Unit) : Action Text := do
  settleQuick
  let index := (← get).streams.size
  withStreams (fun machine => machine.addStream 1 (.collected [])) (inside runner work)
  match (← get).streams[index]? with
  | some (.collected parts) => pure parts.reverse.flatten
  | _ => pure []

/-- Runs commands apart, each of which reads what the one in front of it prints. -/
def runPipe (runner : Runner) (tested : Bool) : List Command → Action Unit
  | [] => pure ()
  | [last] => do
    settleQuick
    inside runner (runner tested last)
  | first :: rest => do
    let text ← captured runner (runner tested first)
    withStreams (fun machine => machine.addStream 0 (.supply text)) (runPipe runner tested rest)

/-- What a command in the background does, from the state of the script it was begun in. -/
def backgroundWork (runner : Runner) (command : Command) (machine : Machine)
    (deadline : Option Nat) (files : FileSystem) (streams : Array Stream) : Aftermath :=
  let begun := { machine with files, streams, waiting := [], deadline? := deadline }
  let (result, after) := inside runner (runner false command) (begun.addStream 0 .nothing)
  let status := match result with
    | .error (.killed signal) => 128 + signal
    | _ => after.status
  ⟨after.files, after.streams, status, after.clock, deadline.any (· ≤ after.clock)⟩

/-- Begins a command that is not waited for. -/
def runBackground (runner : Runner) (command : Command) : Action Unit :=
  modify fun machine =>
    let launched := machine.launched + 1
    let begun := { machine with launched }
    let work := backgroundWork runner command begun
    let job : Waiting := ⟨processNumber + launched, machine.clock, work⟩
    { begun with
      waiting := machine.waiting ++ [job], lastJob? := some job.number, status := 0 }

end Action

end ComponentSchema.Script
