import ComponentSchema.Script.Background

/-!
Opening files for the streams of a script, and running tools on its streams.
-/

namespace ComponentSchema.Script

namespace Action

/-- The wording of a reason why a file cannot be created. -/
def cannotCreate (reason : IoError) : Text :=
  if reason = .notFound then "Directory nonexistent".toList else plainReason reason

/-- The wording of a reason why a file cannot be opened. -/
def cannotOpen (reason : IoError) : Text :=
  if reason = .notFound then "No such file".toList else plainReason reason

def streamPaths : List (String × Nat) :=
  [("/dev/stdin", 0), ("/dev/stdout", 1), ("/dev/stderr", 2), ("/dev/fd/0", 0), ("/dev/fd/1", 1),
    ("/dev/fd/2", 2)]

/-- Reports that something failed, and answers so. -/
def rejected (text : Text) : Action Bool := do
  report text
  pure false

/-- Lets a number stand for another open stream: whether there is one. -/
def joinStream (stream other : Nat) : Action Bool := do
  match (← get).descriptors.lookup other with
  | some index => do
    modify fun machine => machine.attach stream index
    pure true
  | none => rejected (Text.ofNat other ++ ": Bad file descriptor".toList)

/-- Opens a file to be read: whether that worked. -/
def openToRead (stream : Nat) (path : Text) : Action Bool := do
  let machine ← get
  match machine.files.stat (machine.path path) with
  | .ok (location, { content := .file _, .. }) => do
    set (machine.addStream stream (.file location 0 false))
    pure true
  | .ok _ => do
    set (machine.addStream stream .nothing)
    pure true
  | .error reason => rejected ("cannot open ".toList ++ path ++ ": ".toList ++ cannotOpen reason)

/-- Opens a file to be written, which is made if it is not there: whether that worked. -/
def openToWrite (stream : Nat) (mode : OpenMode) (path : Text) : Action Bool := do
  let machine ← get
  let target := machine.path path
  let isThere := machine.files.isFile target
  let keeps := isThere && (mode == .append || mode == .update)
  let problem ←
    if isThere && mode == .write && machine.has 'C' then pure (some .alreadyExists)
    else onFiles (if keeps then pure ()
      else FileAction.write target ByteArray.empty ((0o666 : Mode).without machine.mask))
  match problem with
  | some reason => rejected ("cannot create ".toList ++ path ++ ": ".toList ++ cannotCreate reason)
  | none => do
    modify fun machine =>
      match machine.files.stat target with
      | .ok (location, _) => machine.addStream stream (.file location 0 (mode == .append))
      | .error _ => machine
    pure true

def openFile (stream : Nat) (mode : OpenMode) (path : Text) : Action Bool := do
  if path = zeroPath && mode = .read then
    modify fun machine => machine.addStream stream (.supply zeros)
    pure true
  else if sinkPaths.contains path then
    modify fun machine => machine.addStream stream .nothing
    pure true
  else
    match streamPaths.lookup (String.ofList path) with
    | some other => joinStream stream other
    | none => if mode = .read then openToRead stream path else openToWrite stream mode path

/-- Lets a tool work on the streams of a script: what it finds, or the status it ends with at
once. -/
def useTool {α : Type} (name : Text) (work : Tool α) : Action (Except Nat α) := do
  let machine ← get
  let stream := machine.stream? 0
  let input := machine.readable stream
  let rewinds := match stream with
    | some (.file _ _ _) => true
    | _ => false
  let (result, after) := work
    { name, files := machine.files, directory := machine.directory,
      environment := machine.environment, mask := machine.mask, input, rewinds }
  let machine := { machine with files := after.files }
  set (match stream with
    | some stream =>
      machine.setStream 0 (Machine.advanced (input.length - after.input.length) stream)
    | none => machine)
  for (number, text) in after.written.reverse do write number text
  if 0 < after.elapsed then pass after.elapsed
  modify fun machine => { machine with lost := false }
  let isClosed := (machine.stream? 1).isNone && after.written.any fun entry => entry.1 == 1
  if isClosed then
    write 2 (name ++ ": write error: Bad file descriptor\n".toList)
    pure (.error 1)
  else pure result

/-- Runs a tool on the streams of a script: its status. -/
def runTool (name : Text) (program : Program) (arguments : List Text) : Action Nat := do
  match ← useTool name (program arguments) with
  | .ok status | .error status => pure status

end Action

end ComponentSchema.Script
