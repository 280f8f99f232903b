import ComponentSchema.Script.Glob
import ComponentSchema.Script.Reader
import ComponentSchema.Script.Tool.Process

/-!
What a script works on, and how it ends.
-/

namespace ComponentSchema.Script

def processNumber : Nat := 100

/-- What a stream is connected with. -/
inductive Stream where
  /-- Text that waits to be read. -/
  | supply (rest : Text)
  /-- What was written, the latest first. -/
  | collected (parts : List Text)
  /-- What takes everything and holds nothing. -/
  | nothing
  /-- A file, and the place in it that is read or written next. -/
  | file (location : Location) (position : Nat) (append : Bool)

instance : Inhabited Stream := ⟨.nothing⟩

/-- A variable. -/
structure Variable where
  value : Option Text
  exported : Bool := false
  readOnly : Bool := false

/-- What a command in the background leaves behind. -/
structure Aftermath where
  files : FileSystem
  streams : Array Stream
  status : Nat
  /-- When it ended. -/
  ended : Nat
  /-- Whether its time was over before its end. -/
  isCut : Bool

/-- A command in the background that has not been run yet. -/
structure Waiting where
  number : Nat
  begun : Nat
  /-- What it does to the files and streams it finds, until its time is over. -/
  work : Option Nat → FileSystem → Array Stream → Aftermath

/-- A running script. -/
structure Machine where
  files : FileSystem
  directory : Location := []
  /-- What the script was started as. -/
  name : Text
  arguments : List Text := []
  bindings : SortedMap String Variable := ∅
  /-- The commands that were given names, the latest first. -/
  functions : List (Text × Command) := []
  streams : Array Stream := #[]
  /-- The numbers that streams are known by. -/
  descriptors : List (Nat × Nat) := []
  /-- The permissions that new files and directories do not get. -/
  mask : Mode := 0o022
  /-- What is left of the script. -/
  reader : Reader
  /-- How the last command ended. -/
  status : Nat := 0
  /-- How the last substitution in the words of a command ended. -/
  printedStatus : Nat := 0
  line : Nat := 0
  /-- The command that reports are made for. -/
  caller : Option Text := none
  options : List Char := []
  /-- What is to be done when a signal comes; the end is known as signal zero. -/
  traps : List (Nat × Text) := []
  /-- The signals that have come and wait for what is to be done. -/
  pending : List Nat := []
  /-- What the variables of functions were before, innermost function first. -/
  hidden : List (List (String × Option Variable)) := []
  loops : Nat := 0
  calls : Nat := 0
  /-- How much time has passed, in millionths of a second. -/
  clock : Nat := 0
  /-- When the script is ended from outside. -/
  deadline? : Option Nat := none
  /-- How many commands were begun in the background anywhere. -/
  launched : Nat := 0
  /-- The number up to which such commands belong to scripts around this one. -/
  inherited : Nat := processNumber
  /-- The number of the last command that this script began in the background. -/
  lastJob? : Option Nat := none
  /-- The commands in the background that are to be run. -/
  waiting : List Waiting := []
  /-- The commands in the background that have been run, with how they ended, the latest first. -/
  jobs : List (Nat × Nat) := []
  /-- The argument that options are read from next, counted from one. -/
  optionIndex : Nat := 1
  /-- How far into the argument in front of it the reading of options is. -/
  optionOffset : Nat := 0
  /-- The status in front of what is done when a signal comes. -/
  trapStatus? : Option Nat := none
  /-- Whether something was printed while there was no stream to print to. -/
  lost : Bool := false
  /-- The programs that were found by their names, with their paths, the latest first. -/
  tracked : List (Text × Text) := []

/-- Why commands that follow are not reached. -/
inductive Halt where
  /-- The script ends. -/
  | exited
  /-- Something failed that ends the script unless it is caught. -/
  | failed
  /-- A signal ended the script. -/
  | killed (signal : Nat)
  /-- A function was left. -/
  | returned
  /-- Some loops are left. -/
  | left (loops : Nat)
  /-- Some loops are left but for the last, which goes on with its next turn. -/
  | continued (loops : Nat)
deriving DecidableEq, Repr

/-- Work of a script. -/
abbrev Action (α : Type) := ExceptT Halt (StateM Machine) α

namespace Machine

def value? (machine : Machine) (name : Text) : Option Text :=
  (machine.bindings.find? (String.ofList name)).bind Variable.value

def has (machine : Machine) (option : Char) : Bool := machine.options.contains option

/-- The separators that words are divided at. -/
def separators (machine : Machine) : Text :=
  (machine.value? "IFS".toList).getD [' ', '\t', '\n']

/-- The variables that programs get to see. -/
def environment (machine : Machine) : List (Text × Text) :=
  machine.bindings.entries.filterMap fun (name, held) =>
    if held.exported then held.value.map fun value => (name.toList, value) else none

/-- The path that a text is in the directory the script works in. -/
def path (machine : Machine) (text : Text) : Path := Glob.pathFrom machine.directory text

/-- What a stream that is known by a number is connected with. -/
def stream? (machine : Machine) (number : Nat) : Option Stream :=
  (machine.descriptors.lookup number).bind fun index => machine.streams[index]?

/-- Changes what a stream that is known by a number is connected with. -/
def setStream (machine : Machine) (number : Nat) (stream : Stream) : Machine :=
  match machine.descriptors.lookup number with
  | none => machine
  | some index => { machine with streams := machine.streams.setIfInBounds index stream }

/-- Makes a number known for a stream, in place of the one it was known for. -/
def attach (machine : Machine) (number index : Nat) : Machine :=
  { machine with
    descriptors := (number, index) :: machine.descriptors.filter fun entry => entry.1 != number }

def detach (machine : Machine) (number : Nat) : Machine :=
  { machine with descriptors := machine.descriptors.filter fun entry => entry.1 != number }

def addStream (machine : Machine) (number : Nat) (stream : Stream) : Machine :=
  { machine with streams := machine.streams.push stream }.attach number machine.streams.size

def bytesAt (machine : Machine) (location : Location) : Text :=
  match machine.files.entryAt? location with
  | some { content := .file bytes, .. } => Text.ofBytes bytes
  | _ => []

def readable (machine : Machine) (stream : Option Stream) : Text :=
  match stream with
  | some (.supply rest) => rest
  | some (.file location position _) => (machine.bytesAt location).drop position
  | _ => []

/-- A stream of which a number of characters has been read. -/
def advanced (count : Nat) : Stream → Stream
  | .supply rest => .supply (rest.drop count)
  | .file location position append => .file location (position + count) append
  | stream => stream

/-- Text with another one written over it from some place on. -/
def overwrite (before : Text) (position : Nat) (text : Text) : Text :=
  before.take position ++ List.replicate (position - before.length) '\x00' ++ text ++
    before.drop (position + text.length)

/-- Writes to a file at a location, if one is there. -/
def writeAt (machine : Machine) (location : Location) (position : Nat) (text : Text) : Machine :=
  match machine.files.entryAt? location with
  | some { content := .file bytes, mode } =>
    let content := .file (Text.toBytes (overwrite (Text.ofBytes bytes) position text))
    { machine with files := machine.files.put location { content, mode } }
  | _ => machine

/-- Writes to a stream that is known by a number: none if there is no such stream. -/
def write? (machine : Machine) (number : Nat) (text : Text) : Option Machine :=
  match machine.stream? number with
  | none => none
  | some (.collected parts) => some (machine.setStream number (.collected (text :: parts)))
  | some (.file location position append) =>
    if text.isEmpty then some machine
    else
      let position := if append then (machine.bytesAt location).length else position
      some ((machine.writeAt location position text).setStream number
        (.file location (position + text.length) append))
  | some _ => some machine

end Machine

namespace Action

/-- Writes to a stream. -/
def write (number : Nat) (text : Text) : Action Unit :=
  modify fun machine =>
    (machine.write? number text).getD { machine with lost := machine.lost || number == 1 }

/-- Writes a report on a command of the script. -/
def report (text : Text) : Action Unit := do
  let machine ← get
  let caller := match machine.caller with
    | some name => name ++ ": ".toList
    | none => []
  let front := machine.name ++ ": ".toList ++ Text.ofNat machine.line ++ ": ".toList
  write 2 (front ++ caller ++ text ++ ['\n'])

/-- Sets the status of the last command. -/
def setStatus (status : Nat) : Action Unit := modify fun machine => { machine with status }

/-- Reports what failed and ends the script, unless that is caught. -/
def fail {α : Type} (text : Text) : Action α := do
  setStatus 2
  report text
  throw .failed

/-- Fails over a part of the script that cannot be read. -/
def failOver {α : Type} (line : Nat) (fault : SyntaxFault) : Action α := do
  modify fun machine => { machine with line }
  fail ("Syntax error: ".toList ++ fault.message.toList)

def bind (name : Text) (value : Variable) : Action Unit :=
  modify fun machine =>
    { machine with bindings := machine.bindings.insert (String.ofList name) value }

def variableOf (name : Text) : Action Variable := do
  pure (((← get).bindings.find? (String.ofList name)).getD { value := none })

def assign (name value : Text) : Action Unit := do
  let before ← variableOf name
  if before.readOnly then fail (name ++ ": is read only".toList)
  if name = "OPTIND".toList then
    let optionIndex := max 1 ((Text.number? value).getD 1)
    modify fun machine => { machine with optionIndex, optionOffset := 0 }
  if name = "PATH".toList then modify fun machine => { machine with tracked := [] }
  let exported := before.exported || (← get).has 'a'
  bind name { before with value := some value, exported }

/-- Remembers what a variable is, to restore it when the innermost function is left. -/
def hide (name : Text) : Action Unit :=
  modify fun machine =>
    match machine.hidden with
    | [] => machine
    | inner :: others =>
      let key := String.ofList name
      { machine with hidden := ((key, machine.bindings.find? key) :: inner) :: others }

/-- Restores the variables that the innermost function has hidden. -/
def unhide : Action Unit :=
  modify fun machine =>
    match machine.hidden with
    | [] => machine
    | inner :: others =>
      let bindings := inner.foldl (fun bindings entry =>
        match entry.2 with
        | some held => bindings.insert entry.1 held
        | none => bindings.erase entry.1) machine.bindings
      { machine with bindings, hidden := others }

/-- Does work on files, and answers with the reason if it fails. -/
def onFiles (work : FileAction Unit) : Action (Option IoError) := do
  let machine ← get
  let (result, files) := work machine.files
  set { machine with files }
  pure (match result with
    | .ok () => none
    | .error reason => some reason)

/-- Does something whether work ends well or not. -/
def always {α : Type} (work : Action α) (after : Machine → Machine) : Action α := fun machine =>
  let (result, ended) := work machine
  (result, after ended)

end Action

end ComponentSchema.Script
